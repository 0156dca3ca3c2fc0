import RecordQuery.Proofs.Clause.Spelling
import RecordQuery.Proofs.Time.ClauseText

/-!
# Constants told apart

Where booleans are written bare, the text of a constant that is no real number stands for that
constant alone.
-/
namespace RecordQuery

def Literal.isReal : Literal → Bool
  | .real _ => true
  | _ => false

namespace Clause

theorem tokens?_of_spells {text : List Char} {ts : List Token} (h : Spells text ts) :
    tokens? text = some ts := by
  simpa using h [] rfl

theorem spells_numeric {text : List Char} (h : IsNumeric text) : Spells text [.word text] := by
  refine spells_word h.2 ?_
  rintro rfl
  exact absurd h.1 (by decide)

theorem spells_constant {v : Literal} (hv : v.IsDotted) (hr : v.isReal = false) :
    Spells (v.text .native) [v.token .native] := by
  cases v with
  | string s => exact spells_quoted isWord_nil s.toList
  | integer i =>
    rw [Literal.token, Text.Digits.toList_toString]
    exact spells_numeric (isNumeric_ofInt i)
  | real x => simp [Literal.isReal] at hr
  | boolean b => cases b <;> exact spells_word (isWord_of_all (by decide)) (by decide)
  | instant t => exact spells_numeric (isNumeric_instant t)
  | null => exact spells_word (isWord_of_all (by decide)) (by decide)
  | member typeName label => exact spells_quoted (.of_isDotted hv) label.toList

theorem zone_mem_instant (t : Time.Instant) : 'Z' ∈ t.clauseText := by
  unfold Time.Instant.clauseText
  split <;> simp

theorem ofInt_ne_instant (i : Int) (t : Time.Instant) : Text.Digits.ofInt i ≠ t.clauseText := by
  intro h
  have hz := zone_mem_instant t
  rw [← h] at hz
  have hn (n : Nat) : 'Z' ∉ Text.Digits.ofNat n := fun hz =>
    absurd (Text.Digits.isDigit_of_mem_ofNat hz) (by decide)
  cases i with
  | ofNat n => exact hn n hz
  | negSucc n => exact hn (n + 1) (by simpa [Text.Digits.ofInt] using hz)

/-- The constants that are neither strings nor members are told apart by their words. -/
theorem token_inj {u v : Literal} (hu : u.IsDotted) (hv : v.IsDotted)
    (hur : u.isReal = false) (hvr : v.isReal = false) (h : u.token .native = v.token .native) :
    u = v := by
  -- integers and instants begin as numbers do, the other words do not
  have hinteger (i : Int) : startsNumber (toString i).toList :=
    (Text.Digits.toList_toString i).symm ▸ (isNumeric_ofInt i).1
  have hinstant (t : Time.Instant) : startsNumber t.clauseText := (isNumeric_instant t).1
  have hboolean (b : Bool) : ¬startsNumber (if b then "true" else "false").toList := by
    cases b <;> decide
  have hnull : ¬startsNumber "null".toList := by decide
  have htype : ¬isDotted [] := by decide
  have hword {v w : List Char} (h : Token.word v = .word w) : startsNumber v = startsNumber w := by
    rw [Token.word.inj h]
  have hdigits {i : Int} {w : List Char} (h : Token.word (toString i).toList = .word w) :
      Text.Digits.ofInt i = w := by
    rw [← Text.Digits.toList_toString, Token.word.inj h]
  cases u with
  | string s =>
    cases v with
    | string t =>
      obtain ⟨-, hs⟩ := Token.quoted.inj h
      rw [String.toList_inj.mp hs]
    | member typeName label =>
      obtain ⟨ht, -⟩ := Token.quoted.inj h
      exact absurd (ht ▸ hv) htype
    | _ => contradiction
  | member typeName label =>
    cases v with
    | string s =>
      obtain ⟨ht, -⟩ := Token.quoted.inj h
      exact absurd (ht ▸ hu) htype
    | member typeName' label' =>
      obtain ⟨ht, hl⟩ := Token.quoted.inj h
      rw [String.toList_inj.mp ht, String.toList_inj.mp hl]
    | _ => contradiction
  | integer i =>
    cases v with
    | integer j =>
      rw [Text.Digits.ofInt_injective ((hdigits h).trans (Text.Digits.toList_toString j))]
    | instant t => exact absurd (hdigits h) (ofInt_ne_instant i t)
    | boolean b => exact absurd (hword h ▸ hinteger i) (hboolean b)
    | null => exact absurd (hword h ▸ hinteger i) hnull
    | real _ | string _ | member _ _ => contradiction
  | instant t =>
    cases v with
    | integer i => exact absurd (hdigits h.symm) (ofInt_ne_instant i t)
    | instant t' => rw [Time.Instant.clauseText_injective (Token.word.inj h)]
    | boolean b => exact absurd (hword h ▸ hinstant t) (hboolean b)
    | null => exact absurd (hword h ▸ hinstant t) hnull
    | real _ | string _ | member _ _ => contradiction
  | boolean b =>
    cases v with
    | integer i => exact absurd (hword h.symm ▸ hinteger i) (hboolean b)
    | instant t => exact absurd (hword h.symm ▸ hinstant t) (hboolean b)
    | boolean b' => revert h; cases b <;> cases b' <;> decide
    | null => revert h; cases b <;> decide
    | real _ | string _ | member _ _ => contradiction
  | null =>
    cases v with
    | integer i => exact absurd (hword h.symm ▸ hinteger i) hnull
    | instant t => exact absurd (hword h.symm ▸ hinstant t) hnull
    | boolean b => revert h; cases b <;> decide
    | null => rfl
    | real _ | string _ | member _ _ => contradiction
  | real x => contradiction

theorem constantText_inj {u v : Literal} (hu : u.IsDotted) (hv : v.IsDotted)
    (hur : u.isReal = false) (hvr : v.isReal = false) (h : u.text .native = v.text .native) :
    u = v := by
  have htu := tokens?_of_spells (spells_constant hu hur)
  rw [h, tokens?_of_spells (spells_constant hv hvr)] at htu
  have htoken := (List.cons.inj (Option.some.inj htu)).1
  exact (token_inj hv hu hvr hur htoken).symm

end Clause

end RecordQuery
