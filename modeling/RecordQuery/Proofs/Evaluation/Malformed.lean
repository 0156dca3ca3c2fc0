import RecordQuery.Proofs.Evaluation.Footprint
import RecordQuery.Proofs.Evaluation.Outcome

/-!
# Malformed calls

A call needs a member for its target and arguments of the shape that its test takes. A malformed
call is rejected whatever the record holds, but a collection test with too many conditions is so
only on a collection: the arguments of all other tests are looked at before the member, those of a
collection test after it.
-/
namespace RecordQuery

namespace Test

/-- The shapes of arguments: one string, at most one condition, one constant, constants. -/
def takes : Test → List Predicate → Bool
  | .contains, [.literal (.string _)] | .startsWith, [.literal (.string _)]
  | .endsWith, [.literal (.string _)] => true
  | .any, arguments => arguments.length ≤ 1
  | .anyMatch, [.literal _] => true
  | .inList, arguments => arguments.all fun a => a.literal?.isSome
  | _, _ => false

variable {arguments : List Predicate}

theorem takes_text_iff {t : Test} (ht : t.isText) :
    t.takes arguments ↔ ∃ s, arguments = [.literal (.string s)] := by
  constructor
  · intro h
    unfold takes at h
    split at h <;> simp_all [isText]
  · rintro ⟨s, rfl⟩
    cases t <;> simp_all [isText, takes]

theorem takes_anyMatch_iff : anyMatch.takes arguments ↔ ∃ v, arguments = [.literal v] := by
  constructor
  · intro h
    unfold takes at h
    split at h <;> simp_all
  · rintro ⟨v, rfl⟩
    rfl

theorem takes_inList_iff :
    inList.takes arguments ↔ ∃ vs : List Literal, arguments = vs.map .literal := by
  constructor
  · intro h
    induction arguments with
    | nil => exact ⟨[], rfl⟩
    | cons a arguments ih =>
      obtain ⟨ha, hrest⟩ : a.literal?.isSome ∧ inList.takes arguments := by simpa [takes] using h
      obtain ⟨vs, rfl⟩ := ih hrest
      cases a with
      | literal v => exact ⟨v :: vs, rfl⟩
      | _ => contradiction
  · rintro ⟨vs, rfl⟩
    simp [takes, Predicate.literal?]

end Test

namespace Predicate

def isField : Predicate → Bool
  | .field _ => true
  | _ => false

/-- A collection test of a member that is no collection: it is false without a look at its
arguments. -/
def isSpared (record : Json) : Test → Predicate → Bool
  | .any, .field p =>
    match record.valueAt p with
    | .array _ => false
    | _ => true
  | _, _ => false

end Predicate

namespace Evaluation

variable {style : BooleanStyle} {t : Test} {arguments : List Predicate}

theorem constantTest_malformed (ht : t ≠ .any) (h : ¬t.takes arguments) (value : Option Json) :
    constantTest style t arguments value = .error (.unevaluable (.call t)) := by
  cases t with
  | any => contradiction
  | inList =>
    simp only [constantTest]
    split
    · next vs hvs =>
      have hliterals := Clause.eq_map_of_mapM_literal hvs
      exact absurd (Test.takes_inList_iff.mpr ⟨vs, hliterals⟩) h
    · rfl
  | _ =>
    simp only [constantTest]
    split
    · simp [Test.takes] at h
    · rfl

theorem exists_truth_of_takes (ht : t ≠ .any) (h : t.takes arguments) (p : Path) (scope : Json) :
    ∃ b, truth style (.call t (.field p) arguments) scope = .ok b := by
  cases t with
  | any => contradiction
  | anyMatch =>
    obtain ⟨v, rfl⟩ := Test.takes_anyMatch_iff.mp h
    exact exists_truth_anyMatch p v
  | inList =>
    obtain ⟨vs, rfl⟩ := Test.takes_inList_iff.mp h
    exact ⟨_, truth_inList style scope p vs⟩
  | contains | startsWith | endsWith =>
    obtain ⟨s, rfl⟩ := (Test.takes_text_iff rfl).mp h
    exact exists_truth_text rfl p s

theorem anyTruth_malformed (h : ¬Test.any.takes arguments) (items : List Json) :
    anyTruth style arguments items = .error (.unevaluable (.call .any)) := by
  match arguments with
  | [] | [_] => simp [Test.takes] at h
  | _ :: _ :: _ => rfl

end Evaluation

/-- A malformed call is rejected on every record unless it is spared there, and then it is false. A
well-formed call is rejected on no record, collection tests aside, whose conditions may be. -/
theorem Predicate.holds_malformed (style : BooleanStyle) (record : Json) (t : Test)
    (target : Predicate) (arguments : List Predicate) :
    (¬(target.isField ∧ t.takes arguments) →
      (call t target arguments).holds style record =
        if isSpared record t target then .ok false else .error (.unevaluable (.call t))) ∧
    (t ≠ .any → target.isField ∧ t.takes arguments →
      ∃ b, (call t target arguments).holds style record = .ok b) := by
  unfold holds
  cases target with
  | field p =>
    refine ⟨fun h => ?_, fun ht h => Evaluation.exists_truth_of_takes ht h.2 p record⟩
    have htakes : ¬t.takes arguments := fun htakes => h ⟨rfl, htakes⟩
    cases t with
    | any =>
      rw [Evaluation.truth_any, isSpared]
      cases record.valueAt p with
      | array items => exact Evaluation.anyTruth_malformed htakes items
      | _ => rfl
    | _ =>
      rw [Evaluation.truth_constants (by decide)]
      exact Evaluation.constantTest_malformed (by decide) htakes _
  | _ =>
    refine ⟨fun _ => ?_, fun _ h => absurd h.1 (by simp [isField])⟩
    cases t <;> rfl

/-- Two conditions, and a membership test with a member among its values. -/
theorem Predicate.holds_malformed_conditions :
    let conditions : List Predicate := [.literal (.boolean true), .literal (.boolean true)]
    let values : List Predicate := [.literal (.string "a"), .field ⟨["Name"]⟩]
    let record : Json := .object [("Name", .string "a"), ("Tags", .array [])]
    ¬((field ⟨["Tags"]⟩).isField ∧ Test.any.takes conditions) ∧
      ¬((field ⟨["Name"]⟩).isField ∧ Test.inList.takes values) ∧
      (call .any (.field ⟨["Tags"]⟩) conditions).holds .native record =
        .error (.unevaluable (.call .any)) ∧
      (call .inList (.field ⟨["Name"]⟩) values).holds .native record =
        .error (.unevaluable (.call .inList)) := by
  intro conditions values record
  have hany : ¬((field ⟨["Tags"]⟩).isField ∧ Test.any.takes conditions) := by decide
  have hlist : ¬((field ⟨["Name"]⟩).isField ∧ Test.inList.takes values) := by decide
  exact ⟨hany, hlist, (holds_malformed .native record _ _ _).1 hany,
    (holds_malformed .native record _ _ _).1 hlist⟩

/-- Two conditions on a member that is a string: no failure. -/
theorem Predicate.conditions_unnoticed :
    let conditions : List Predicate := [.literal (.boolean true), .literal (.boolean true)]
    ¬Test.any.takes conditions ∧
      (call .any (.field ⟨["Tags"]⟩) conditions).holds .native (.object [("Tags", .string "a")]) =
        .ok false :=
  ⟨by decide, rfl⟩

end RecordQuery
