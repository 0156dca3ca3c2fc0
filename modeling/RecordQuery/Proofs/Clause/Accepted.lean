import RecordQuery.Clause.Printer
import RecordQuery.Proofs.Result

/-!
# Predicates that have a clause

The shapes of the predicates that can be written as a filter clause, and the text of each. Whether
a predicate has a clause does not depend on the style of booleans.
-/
namespace RecordQuery

/-- The tests that look for a string in a string. -/
def Test.isText : Test → Bool
  | .contains | .startsWith | .endsWith => true
  | _ => false

namespace Clause

/-- What may stand on either side of a comparison. -/
inductive IsOperand : Predicate → Prop
  | literal (v : Literal) : IsOperand (.literal v)
  | field {p : Path} (named : p.isCurrent = false) : IsOperand (.field p)

inductive Accepted : Predicate → Prop
  | literal (v : Literal) : Accepted (.literal v)
  | field {p : Path} (named : p.isCurrent = false) : Accepted (.field p)
  | compare (op : Comparison) {a b : Predicate} (left : IsOperand a) (right : IsOperand b) :
      Accepted (.compare op a b)
  | logical (op : Connective) {a b : Predicate} (left : Accepted a) (right : Accepted b) :
      Accepted (.logical op a b)
  | not {a : Predicate} (operand : Accepted a) : Accepted (.not a)
  | text {t : Test} (isText : t.isText) {p : Path} (named : p.isCurrent = false) (s : String) :
      Accepted (.call t (.field p) [.literal (.string s)])
  | any {p : Path} (named : p.isCurrent = false) : Accepted (.any (.field p))
  | anyMatch {p : Path} (named : p.isCurrent = false) (v : Literal) :
      Accepted (.anyMatch (.field p) v)
  | inList {p : Path} (named : p.isCurrent = false) (vs : List Literal) :
      Accepted (.inList (.field p) vs)

theorem Accepted.logical_iff {op : Connective} {a b : Predicate} :
    Accepted (.logical op a b) ↔ Accepted a ∧ Accepted b := by
  refine ⟨fun h => ?_, fun h => .logical op h.1 h.2⟩
  cases h with
  | logical _ left right => exact ⟨left, right⟩

theorem Accepted.not_iff {a : Predicate} : Accepted (.not a) ↔ Accepted a := by
  refine ⟨fun h => ?_, .not⟩
  cases h with
  | not operand => exact operand

def operandText (style : BooleanStyle) : Predicate → List Char
  | .literal v => v.text style
  | .field p => p.chars
  | _ => []

theorem path_eq_ok_iff {p : Path} {text : List Char} :
    path p = .ok text ↔ p.isCurrent = false ∧ text = p.chars := by
  unfold path
  split
  · next h => simp [h]
  · next h => simp [h, eq_comm]

theorem operand_eq_ok_iff {style : BooleanStyle} {a : Predicate} {text : List Char} :
    operand style a = .ok text ↔ IsOperand a ∧ text = operandText style a := by
  constructor
  · intro h
    match a, h with
    | .literal v, h => exact ⟨.literal v, (Except.ok.inj h).symm⟩
    | .field p, h =>
      obtain ⟨named, rfl⟩ := path_eq_ok_iff.mp h
      exact ⟨.field named, rfl⟩
  · rintro ⟨h, rfl⟩
    cases h with
    | literal v => rfl
    | field named => exact path_eq_ok_iff.mpr ⟨named, rfl⟩

theorem mapM_literal (vs : List Literal) :
    (vs.map Predicate.literal).mapM Predicate.literal? = some vs := by
  induction vs with
  | nil => rfl
  | cons v vs ih => simp [Predicate.literal?, ih]

theorem eq_map_of_mapM_literal {arguments : List Predicate} {vs : List Literal}
    (h : arguments.mapM Predicate.literal? = some vs) : arguments = vs.map .literal := by
  induction arguments generalizing vs with
  | nil => simp_all
  | cons a arguments ih =>
    rw [List.mapM_cons] at h
    obtain ⟨v, hv, h⟩ := Option.bind_eq_some_iff.mp h
    obtain ⟨us, hus, h⟩ := Option.bind_eq_some_iff.mp h
    obtain rfl : v :: us = vs := Option.some.inj h
    obtain rfl : a = .literal v := by
      cases a <;> simp_all [Predicate.literal?]
    simp [ih hus]

theorem distinctLiterals?_map (vs : List Literal) :
    distinctLiterals? (vs.map .literal) = some (distinct vs) := by
  rw [distinctLiterals?, mapM_literal]
  rfl

section Shapes

variable {style : BooleanStyle} {parent : Option Connective} {p : Path}

theorem chars_field (named : p.isCurrent = false) :
    chars style parent (.field p) = .ok p.chars := by
  simp [chars, path, named]

theorem chars_compare {op : Comparison} {a b : Predicate} (ha : IsOperand a) (hb : IsOperand b) :
    chars style parent (.compare op a b) =
      .ok (operandText style a ++ tokenChars op.token ++ operandText style b) := by
  simp only [chars, operand_eq_ok_iff.mpr ⟨ha, rfl⟩, operand_eq_ok_iff.mpr ⟨hb, rfl⟩]
  rfl

theorem chars_text {t : Test} (ht : t.isText) (named : p.isCurrent = false) (s : String) :
    chars style parent (.call t (.field p) [.literal (.string s)]) =
      .ok ((functionName t).toList ++
        parenthesized (p.chars ++ ',' :: Text.Quoted.quote s.toList)) := by
  cases t <;> simp_all [chars, call, path, test, Test.isText, bind, Except.bind]

theorem chars_any (named : p.isCurrent = false) :
    chars style parent (.any (.field p)) = .ok (p.chars ++ "/any()".toList) := by
  simp [chars, Predicate.any, call, path, named, test, bind, Except.bind]

theorem chars_anyMatch (named : p.isCurrent = false) (v : Literal) :
    chars style parent (.anyMatch (.field p) v) =
      .ok (p.chars ++ "/any(x: x eq ".toList ++ v.text style ++ [')']) := by
  simp [chars, Predicate.anyMatch, call, path, named, test, bind, Except.bind]

theorem chars_inList (named : p.isCurrent = false) (vs : List Literal) :
    chars style parent (.inList (.field p) vs) =
      .ok (membership style p.chars (distinct vs)) := by
  simp [chars, Predicate.inList, call, path, named, test, bind, Except.bind,
    distinctLiterals?_map]

end Shapes

theorem Accepted.of_call {style : BooleanStyle} {t : Test} {target : Predicate}
    {arguments : List Predicate} {text : List Char}
    (h : call style t target arguments = .ok text) : Accepted (.call t target arguments) := by
  cases target with
  | field p =>
    obtain ⟨member, hp, h⟩ := bind_eq_ok_iff.mp h
    obtain ⟨named, rfl⟩ := path_eq_ok_iff.mp hp
    cases t with
    | contains | startsWith | endsWith =>
      simp only [test] at h
      split at h
      · exact .text rfl named _
      · contradiction
    | any =>
      simp only [test] at h
      split at h
      · next he =>
        obtain rfl := List.isEmpty_iff.mp he
        exact .any named
      · contradiction
    | anyMatch =>
      simp only [test] at h
      split at h
      · exact .anyMatch named _
      · contradiction
    | inList =>
      simp only [test] at h
      split at h
      · next vs hvs =>
        obtain ⟨us, hus, -⟩ := Option.map_eq_some_iff.mp hvs
        obtain rfl := eq_map_of_mapM_literal hus
        exact .inList named us
      · contradiction
  | _ => contradiction

theorem Accepted.of_chars {style : BooleanStyle} {e : Predicate} {parent : Option Connective}
    {text : List Char} (h : chars style parent e = .ok text) : Accepted e := by
  fun_induction chars style parent e generalizing text with
  | case1 _ v => exact .literal v
  | case2 _ p => exact .field (path_eq_ok_iff.mp h).1
  | case3 _ op a b =>
    obtain ⟨_, ha, h⟩ := bind_eq_ok_iff.mp h
    obtain ⟨_, hb, -⟩ := bind_eq_ok_iff.mp h
    exact .compare op (operand_eq_ok_iff.mp ha).1 (operand_eq_ok_iff.mp hb).1
  | case4 _ op a b iha ihb =>
    obtain ⟨_, ha, h⟩ := bind_eq_ok_iff.mp h
    obtain ⟨_, hb, -⟩ := bind_eq_ok_iff.mp h
    exact .logical op (iha ha) (ihb hb)
  | case5 _ a iha =>
    obtain ⟨_, ha, -⟩ := bind_eq_ok_iff.mp h
    exact .not (iha ha)
  | case6 _ t target arguments => exact .of_call h

/-- An accepted predicate has a clause in every style, under any connective. -/
theorem Accepted.exists_chars {e : Predicate} (he : Accepted e) (style : BooleanStyle)
    (parent : Option Connective) : ∃ text, chars style parent e = .ok text := by
  induction he generalizing parent with
  | literal v => exact ⟨_, rfl⟩
  | field named => exact ⟨_, chars_field named⟩
  | compare op left right => exact ⟨_, chars_compare left right⟩
  | logical op _ _ iha ihb =>
    obtain ⟨_, ha⟩ := iha (some op)
    obtain ⟨_, hb⟩ := ihb (some op)
    exact ⟨_, by simp only [chars, ha, hb]; rfl⟩
  | not _ ih =>
    obtain ⟨_, ha⟩ := ih none
    exact ⟨_, by simp only [chars, ha]; rfl⟩
  | text isText named s => exact ⟨_, chars_text isText named s⟩
  | any named => exact ⟨_, chars_any named⟩
  | anyMatch named v => exact ⟨_, chars_anyMatch named v⟩
  | inList named vs => exact ⟨_, chars_inList named vs⟩

theorem Accepted.exists_clause {e : Predicate} (he : Accepted e) (style : BooleanStyle) :
    ∃ clause, e.clause style = .ok clause := by
  obtain ⟨text, ht⟩ := he.exists_chars style none
  exact ⟨_, map_eq_ok_iff.mpr ⟨text, ht, rfl⟩⟩

end Clause

end RecordQuery
