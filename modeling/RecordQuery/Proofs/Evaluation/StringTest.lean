import RecordQuery.Evaluation.Evaluator
import RecordQuery.Proofs.Clause.Accepted
import RecordQuery.Proofs.Text.Lower

/-!
# String tests and exact occurrences

A string test compares texts in lower case. A text that occurs as it is in the value of a member is
found there unless the occurrence tears a word with a capital sigma apart, whose lower case then
differs inside and outside of the value.
-/
namespace RecordQuery

open Text.Lower

namespace Evaluation

theorem isInfix_iff (needle hay : List Char) : isInfix needle hay ↔ needle <:+: hay := by
  induction hay with
  | nil => simp [isInfix]
  | cons c hay ih => simp [isInfix, ih, List.infix_cons_iff]

end Evaluation

namespace Predicate

variable (style : BooleanStyle) {p : Path} {record : Json} {hay : String}
  (hvalue : record.resolvePath? p = some (.string hay)) (needle : String)
include hvalue

theorem holds_text {t : Test} (ht : t.isText) :
    (call t (field p) [.literal (.string needle)]).holds style record =
      .ok (Evaluation.stringTest t (lower needle.toList) (lower hay.toList)) := by
  cases t <;> simp_all [Test.isText, holds, Evaluation.truth, Evaluation.constantTest]

/-- What occurs in the value of a member is found unless the occurrence is torn; at the start and at
the end of the value that is the exact condition. An occurrence without a capital sigma is not torn,
and neither is one that no word runs into or out of. -/
theorem occurrence_found {needle : String} {front back : List Char}
    (hhay : hay.toList = front ++ needle.toList ++ back) :
    (¬Torn front needle.toList back →
        ((field p).contains needle).holds style record = .ok true) ∧
      (front = [] → (((field p).startsWith needle).holds style record = .ok true ↔
        ¬Torn front needle.toList back)) ∧
      (back = [] → (((field p).endsWith needle).holds style record = .ok true ↔
        ¬Torn front needle.toList back)) ∧
      ('Σ' ∉ needle.toList ∨ ¬meetsLetter front.reverse ∧ ¬meetsLetter back →
        ¬Torn front needle.toList back) := by
  refine ⟨fun h => ?_, fun hfront => ?_, fun hback => ?_, ?_⟩
  · have hfound := (Evaluation.isInfix_iff _ _).mpr (lower_occurs h)
    rw [contains, holds_text style hvalue needle rfl, hhay]
    exact congrArg _ hfound
  · subst hfront
    rw [startsWith, holds_text style hvalue needle rfl, hhay, List.nil_append]
    simp [Evaluation.stringTest, lower_prefix_iff]
  · subst hback
    rw [endsWith, holds_text style hvalue needle rfl, hhay, List.append_nil]
    simp [Evaluation.stringTest, lower_suffix_iff]
  · rintro (h | ⟨hfront, hback⟩)
    · exact not_torn_of_not_mem h
    · exact not_torn_of_whole hfront hback

omit hvalue in
/-- A word at the start of a value, with a capital sigma at its end. -/
theorem occurrence_found_word :
    let record : Json := .object [("Street", .string "ΟΔΟΣ ΑΣΙΑΣ")]
    let needle := "ΟΔΟΣ"
    record.resolvePath? ⟨["Street"]⟩ = some (.string "ΟΔΟΣ ΑΣΙΑΣ") ∧
      "ΟΔΟΣ ΑΣΙΑΣ".toList = [] ++ needle.toList ++ " ΑΣΙΑΣ".toList ∧
      ((field ⟨["Street"]⟩).contains needle).holds .native record = .ok true ∧
      ((field ⟨["Street"]⟩).startsWith needle).holds .native record = .ok true := by
  intro record needle
  have hvalue : record.resolvePath? ⟨["Street"]⟩ = some (.string "ΟΔΟΣ ΑΣΙΑΣ") := rfl
  have hhay : "ΟΔΟΣ ΑΣΙΑΣ".toList = [] ++ needle.toList ++ " ΑΣΙΑΣ".toList := by decide
  obtain ⟨hcontains, hstart, -, hwhole⟩ := occurrence_found .native hvalue hhay
  have htorn := hwhole (.inr ⟨by decide, by decide +kernel⟩)
  exact ⟨hvalue, hhay, hcontains htorn, (hstart rfl).mpr htorn⟩

omit hvalue in
/-- The start of a word whose sigma is not at its end is missed, and a sigma alone that ends one. -/
theorem occurrence_missed :
    let record : Json := .object [("Name", .string "ΑΣΑ"), ("Other", .string "ΑΣ")]
    "ΑΣ".toList <+: "ΑΣΑ".toList ∧ "Σ".toList <:+ "ΑΣ".toList ∧
      ((field ⟨["Name"]⟩).contains "ΑΣ").holds .native record = .ok false ∧
      ((field ⟨["Name"]⟩).startsWith "ΑΣ").holds .native record = .ok false ∧
      ((field ⟨["Other"]⟩).endsWith "Σ").holds .native record = .ok false := by
  refine ⟨by decide, by decide, ?_, ?_, ?_⟩ <;> decide +kernel

end Predicate

end RecordQuery
