import RecordQuery.Proofs.Evaluation.Chain
import RecordQuery.Proofs.Evaluation.Membership

/-!
# Outcomes of predicates that have a clause

Whoever accepts a predicate as a filter clause can also evaluate it: on every record it comes out
true or false, unless a member or a constant stands bare where a truth value is wanted.
-/
namespace RecordQuery

namespace Predicate

/-- A member, or a constant that is no boolean. -/
def isBare : Predicate → Bool
  | .field _ => true
  | .literal v => v.toBool?.isNone
  | .compare .. | .logical .. | .not _ | .call .. => false

mutual

/-- The operands of connectives and negations anywhere in a predicate. -/
def truthOperands : Predicate → List Predicate
  | .literal _ | .field _ => []
  | .compare _ a b => truthOperands a ++ truthOperands b
  | .logical _ a b => a :: b :: (truthOperands a ++ truthOperands b)
  | .not a => a :: truthOperands a
  | .call _ target arguments => truthOperands target ++ truthOperandsAll arguments

def truthOperandsAll : List Predicate → List Predicate
  | [] => []
  | p :: ps => truthOperands p ++ truthOperandsAll ps

end

/-- The predicates that have to come out true or false for a predicate to do so. -/
def conditions (e : Predicate) : List Predicate := e :: e.truthOperands

theorem conditions_subset_logical (op : Connective) (a b : Predicate) :
    a.conditions ⊆ (logical op a b).conditions ∧ b.conditions ⊆ (logical op a b).conditions := by
  constructor <;> intro c hc <;> rcases List.mem_cons.mp hc with rfl | hc <;>
    simp [conditions, truthOperands, *]

theorem conditions_subset_not (a : Predicate) : a.conditions ⊆ (not a).conditions := by
  intro c hc
  exact List.mem_cons_of_mem _ hc

theorem kind_of_isBare {a : Predicate} (h : a.isBare) :
    a.kind = .literal ∨ a.kind = .field := by
  cases a with
  | literal v => exact .inl rfl
  | field p => exact .inr rfl
  | _ => simp [isBare] at h

end Predicate

namespace Evaluation

open Clause

variable {style : BooleanStyle} {scope : Json}

/-- A connective comes out as one of its operands does. -/
theorem connect_eq_or (op : Connective) (x y : Except Failure Bool) :
    connect op x y = x ∨ connect op x y = y := by
  cases x with
  | error f => exact .inl rfl
  | ok b =>
    by_cases hb : b = decide (op = .or)
    · left
      simp [connect, bind, Except.bind, hb]
    · right
      simp [connect, bind, Except.bind, hb]

theorem exists_operand (scope : Json) {a : Predicate} (ha : IsOperand a) :
    ∃ v, operand scope a = .ok v := by
  cases ha with
  | literal v => exact ⟨_, rfl⟩
  | field => exact ⟨_, rfl⟩

theorem exists_truth_compare (op : Comparison) {a b : Predicate} (ha : IsOperand a)
    (hb : IsOperand b) : ∃ x, truth style (.compare op a b) scope = .ok x := by
  obtain ⟨v, hv⟩ := exists_operand scope ha
  obtain ⟨w, hw⟩ := exists_operand scope hb
  refine ⟨Operand.compare style op v w, ?_⟩
  simp only [truth, hv, hw]
  rfl

theorem exists_truth_text {t : Test} (ht : t.isText) (p : Path) (s : String) :
    ∃ x, truth style (.call t (.field p) [.literal (.string s)]) scope = .ok x := by
  have hconstant (value : Option Json) :
      ∃ x, constantTest style t [.literal (.string s)] value = .ok x := by
    cases t <;> simp only [Test.isText, Bool.false_eq_true] at ht <;>
      (simp only [constantTest]; split <;> exact ⟨_, rfl⟩)
  cases t with
  | any => contradiction
  | _ => exact hconstant _

theorem exists_truth_any (p : Path) : ∃ x, truth style (.any (.field p)) scope = .ok x := by
  simp only [Predicate.any, truth]
  split
  · exact ⟨_, rfl⟩
  · exact ⟨_, rfl⟩

theorem exists_truth_anyMatch (p : Path) (v : Literal) :
    ∃ x, truth style (.anyMatch (.field p) v) scope = .ok x := by
  simp only [Predicate.anyMatch, truth, constantTest]
  split
  · exact ⟨_, rfl⟩
  · exact ⟨_, rfl⟩

theorem fieldTruth_or (style : BooleanStyle) (value : Option Json) :
    (∃ x, fieldTruth style value = .ok x) ∨
      fieldTruth style value = .error (.unevaluable .field) := by
  unfold fieldTruth
  split
  · exact .inl ⟨_, rfl⟩
  · split
    · exact .inl ⟨_, rfl⟩
    · exact .inr rfl
  · exact .inl ⟨_, rfl⟩
  · exact .inl ⟨_, rfl⟩
  · exact .inr rfl

/-- If an accepted predicate has no truth value, a bare condition is to blame. -/
theorem truth_of_accepted (style : BooleanStyle) (scope : Json) {e : Predicate} (he : Accepted e) :
    (∃ x, truth style e scope = .ok x) ∨
      ∃ a ∈ e.conditions, a.isBare ∧ truth style e scope = .error (.unevaluable a.kind) := by
  induction he with
  | literal v =>
    cases v with
    | boolean b => exact .inl ⟨b, rfl⟩
    | _ => exact .inr ⟨_, List.mem_cons_self, rfl, rfl⟩
  | @field p named =>
    rcases fieldTruth_or style (scope.resolvePath? p) with h | h
    · exact .inl h
    · exact .inr ⟨_, List.mem_cons_self, rfl, h⟩
  | compare op left right => exact .inl (exists_truth_compare op left right)
  | @logical op a b _ _ iha ihb =>
    obtain ⟨hsubset, hsubset'⟩ := Predicate.conditions_subset_logical op a b
    rw [truth_logical]
    -- the outcome is that of one of the operands, so it is to be blamed on the same condition
    rcases connect_eq_or op (truth style a scope) (truth style b scope) with h | h
    · rw [h]
      exact iha.imp_right fun ⟨c, hc, hbare⟩ => ⟨c, hsubset hc, hbare⟩
    · rw [h]
      exact ihb.imp_right fun ⟨c, hc, hbare⟩ => ⟨c, hsubset' hc, hbare⟩
  | @not a _ ih =>
    rcases ih with ⟨x, hx⟩ | ⟨c, hc, hbare, hx⟩
    · left
      exact ⟨!x, by simp only [truth, hx]; rfl⟩
    · right
      exact ⟨c, Predicate.conditions_subset_not a hc, hbare, by simp only [truth, hx]; rfl⟩
  | @text t isText p named s => exact .inl (exists_truth_text isText p s)
  | any => exact .inl (exists_truth_any _)
  | anyMatch named v => exact .inl (exists_truth_anyMatch _ v)
  | inList named vs => exact .inl ⟨_, truth_inList style scope _ vs⟩

end Evaluation

/-- A predicate that has a clause in one style fails on a record, in this style or another, only
for a bare member or constant; without one among its conditions it never fails. -/
theorem Predicate.holds_of_clause {style : BooleanStyle} {e : Predicate} {clause : String}
    (h : e.clause style = .ok clause) (style' : BooleanStyle) :
    (∀ record, (∃ b, e.holds style' record = .ok b) ∨
      e.holds style' record = .error (.unevaluable .literal) ∨
      e.holds style' record = .error (.unevaluable .field)) ∧
    ((∀ a ∈ e.conditions, a.isBare = false) →
      ∀ record, ∃ b, e.holds style' record = .ok b) := by
  obtain ⟨text, htext, -⟩ := map_eq_ok_iff.mp h
  have he := Clause.Accepted.of_chars htext
  have houtcome (record : Json) := Evaluation.truth_of_accepted style' record he
  constructor
  · intro record
    rcases houtcome record with hb | ⟨a, -, hbare, hfailed⟩
    · exact .inl hb
    · right
      unfold holds
      rw [hfailed]
      rcases kind_of_isBare hbare with hk | hk <;> simp [hk]
  · intro hnone record
    rcases houtcome record with hb | ⟨a, ha, hbare, -⟩
    · exact hb
    · rw [hnone a ha] at hbare
      contradiction

/-- Membership, negation and a string test inside connectives, sent with one style of booleans and
evaluated with another. -/
theorem Predicate.holds_of_clause_connectives :
    let style := BooleanStyle.labels "Entities.NoYes" "Yes" "No"
    let e : Predicate := .logical .or
      (.not (.inList (.field ⟨["Site", "Name"]⟩) [.boolean true, .null]))
      (.logical .and (.contains (.field ⟨["Name"]⟩) "it's")
        (.anyMatch (.field ⟨["Tags"]⟩) (.integer 0)))
    let clause := "not (Site/Name eq Entities.NoYes'Yes' or Site/Name eq null) or " ++
      "(contains(Name,'it''s') and Tags/any(x: x eq 0))"
    e.clause style = .ok clause ∧ (∀ a ∈ e.conditions, a.isBare = false) ∧
      ∀ record, ∃ b, e.holds .native record = .ok b := by
  intro style e clause
  have hclause : e.clause style = .ok clause := by rfl
  have hnone : ∀ a ∈ e.conditions, a.isBare = false := by decide
  exact ⟨hclause, hnone, (holds_of_clause hclause .native).2 hnone⟩

end RecordQuery
