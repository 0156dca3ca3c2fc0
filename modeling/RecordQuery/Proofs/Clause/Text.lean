import RecordQuery.Clause.Printer
import RecordQuery.Proofs.Clause.Unambiguous

/-!
# Texts that read as expressions

The texts of a clause, put together in the ways in which the grammar puts its expressions
together.
-/
namespace RecordQuery.Clause

/-- The printer writes the words of the grammar between operands. -/
theorem token_comparison (op : Comparison) :
    (Operator.comparison op).token = op.token.toList := by
  cases op <;> rfl

theorem token_connective (op : Connective) :
    (Operator.connective op).token = op.token.toList := by
  cases op <;> rfl

/-- A text whose tokens stand for the expression, whatever comes after its end. -/
def Reads (n : Nat) (text : List Char) (e : Expression) : Prop :=
  ∃ ts, Spells text ts ∧ Derives n ts e

theorem Reads.isReading {text : List Char} {e : Expression} (h : Reads 0 text e) :
    IsReading text e := by
  obtain ⟨ts, hs, hd⟩ := h
  have := hs [] rfl
  simp only [List.append_nil, tokens?_nil, Option.map_some] at this
  exact ⟨ts, this, hd⟩

theorem Reads.mono {m n : Nat} {text : List Char} {e : Expression} (h : Reads n text e)
    (hmn : m ≤ n) : Reads m text e :=
  h.imp fun _ h => ⟨h.1, h.2.mono hmn⟩

theorem isWordChar_of_isDigit {c : Char} (h : c.isDigit) : isWordChar c := by
  simp only [isWordChar, Bool.not_eq_true', Bool.or_eq_false_iff, decide_eq_false_iff_not]
  refine ⟨⟨⟨⟨?_, ?_⟩, ?_⟩, ?_⟩, ?_⟩ <;> rintro rfl <;> exact absurd h (by decide)

theorem isWordChar_of_isLetter {c : Char} (h : isLetter c) : isWordChar c := by
  simp only [isWordChar, Bool.not_eq_true', Bool.or_eq_false_iff, decide_eq_false_iff_not]
  refine ⟨⟨⟨⟨?_, ?_⟩, ?_⟩, ?_⟩, ?_⟩ <;> rintro rfl <;> exact absurd h (by decide)

theorem IsWord.of_isIdentifier {w : List Char} (h : isIdentifier w) : IsWord w := fun _ hc =>
  (isIdentifier_chars h hc).elim isWordChar_of_isLetter isWordChar_of_isDigit

theorem Spells.append_operator {a b : List Char} {ts us : List Token} (ha : Spells a ts)
    (hb : Spells b us) {word : String} (hw : IsWord word.toList) (hne : word.toList ≠ []) :
    Spells (a ++ tokenChars word ++ b) (ts ++ .word word.toList :: us) := by
  intro rest hrest
  have hword := spells_word hw hne (' ' :: (b ++ rest)) rfl
  simp only [tokenChars, List.append_assoc, List.cons_append, List.nil_append]
  rw [ha _ rfl, tokens?_blank, hword, tokens?_blank, hb rest hrest]
  simp [Function.comp_def]

theorem Spells.enclosed {a : List Char} {ts : List Token} (ha : Spells a ts) {w : List Char}
    (hw : IsWord w) : Spells (w ++ parenthesized a) (.opening w :: ts ++ [.closing]) := by
  intro rest _
  simp only [parenthesized, List.append_assoc, List.cons_append, List.nil_append]
  rw [tokens?_opening hw, ha _ rfl, tokens?_closing]
  simp [Function.comp_def]

theorem Reads.binary {op : Operator} {word : String} (h : op.token = word.toList) {a b : List Char}
    {d e : Expression} (ha : Reads op.level a d) (hb : Reads (op.level + 1) b e) :
    Reads op.level (a ++ tokenChars word ++ b) (.binary op d e) := by
  obtain ⟨ts, hs, hd⟩ := ha
  obtain ⟨us, hs', hd'⟩ := hb
  have hw : IsWord op.token ∧ op.token ≠ [] := by
    rcases op with op | op <;> cases op <;> exact ⟨isWord_of_all (by decide), by decide⟩
  rw [h] at hw
  exact ⟨_, hs.append_operator hs' hw.1 hw.2, h ▸ .binary op hd hd'⟩

theorem Reads.parenthesized {a : List Char} {e : Expression} (h : Reads 0 a e) :
    Reads termLevel (parenthesized a) e := by
  obtain ⟨ts, hs, hd⟩ := h
  exact ⟨_, hs.enclosed isWord_nil, .group hd⟩

theorem Reads.not {a : List Char} {e : Expression} (h : Reads negationLevel a e) :
    Reads negationLevel ("not ".toList ++ a) (.not e) := by
  obtain ⟨ts, hs, hd⟩ := h
  refine ⟨_, fun rest hrest => ?_, .not hd⟩
  have hword := spells_word (w := "not".toList) (isWord_of_all (by decide)) (by simp)
    (' ' :: (a ++ rest)) rfl
  have hsplit : "not ".toList ++ a ++ rest = "not".toList ++ ' ' :: (a ++ rest) := by simp
  rw [hsplit, hword, tokens?_blank, hs rest hrest]
  simp [Function.comp_def]

theorem Reads.function {name : List Char} (hname : isIdentifier name) {a b : List Char}
    {d e : Expression} (ha : Reads 0 a d) (hb : Reads 0 b e) :
    Reads termLevel (name ++ Clause.parenthesized (a ++ ',' :: b)) (.function name d e) := by
  obtain ⟨ts, hs, hd⟩ := ha
  obtain ⟨us, hs', hd'⟩ := hb
  have harguments : Spells (a ++ ',' :: b) (ts ++ .comma :: us) := by
    intro rest hrest
    rw [List.append_assoc, List.cons_append, hs _ rfl, tokens?_comma, hs' rest hrest]
    simp [Function.comp_def]
  have := harguments.enclosed (.of_isIdentifier hname)
  exact ⟨_, this, by simpa using Derives.function hname hd hd'⟩

theorem Reads.any {w : List Char} (hp : isPath w) (hw : IsWord w) :
    Reads termLevel (w ++ "/any()".toList) (.any w) := by
  have hany : IsWord (w ++ "/any".toList) :=
    isWord_append.mpr ⟨hw, isWord_of_all (by decide)⟩
  have hnil : Spells [] [] := fun rest _ => by simp
  have := hnil.enclosed hany
  exact ⟨_, by simpa [Clause.parenthesized] using this, .any hp⟩

theorem Reads.anyWhere {w element : List Char} (hp : isPath w) (hw : IsWord w)
    (he : isIdentifier element) {a : List Char} {e : Expression} (ha : Reads 0 a e) :
    Reads termLevel (w ++ "/any(".toList ++ element ++ ": ".toList ++ a ++ [')'])
      (.anyWhere w element e) := by
  obtain ⟨ts, hs, hd⟩ := ha
  have hany : IsWord (w ++ "/any".toList) :=
    isWord_append.mpr ⟨hw, isWord_of_all (by decide)⟩
  have hcolon : IsWord (element ++ [':']) :=
    isWord_append.mpr ⟨.of_isIdentifier he, isWord_of_all (by decide)⟩
  have hcondition : Spells (element ++ ": ".toList ++ a) (.word (element ++ [':']) :: ts) := by
    intro rest hrest
    have hword := spells_word hcolon (by simp) (' ' :: (a ++ rest)) rfl
    have hsplit : element ++ ": ".toList ++ a ++ rest =
        element ++ [':'] ++ ' ' :: (a ++ rest) := by simp
    rw [hsplit, hword, tokens?_blank, hs rest hrest]
    simp [Function.comp_def]
  have := hcondition.enclosed hany
  exact ⟨_, by simpa [Clause.parenthesized] using this, .anyWhere hp he hd⟩

end RecordQuery.Clause
