import RecordQuery.Proofs.Evaluation.Chain
import RecordQuery.Proofs.Evaluation.Comparison
import RecordQuery.Proofs.Predicate.Expansion

/-!
# The truth of membership tests

A membership test comes out as the alternatives it stands for. Values that are the same need to be
tried once only, since no operand of a comparison tells them apart.
-/
namespace RecordQuery

theorem Literal.eq_or_real_of_same {u v : Literal} (h : u.same v) :
    u = v ∨ ∃ x y, u = .real x ∧ v = .real y ∧ x.same y := by
  cases u with
  | real x =>
    cases v with
    | real y => exact .inr ⟨x, y, rfl, rfl, h⟩
    | _ => simp [same] at h
  | _ => simp_all [same]

theorem Literal.agrees_scalar {u v : Literal} (h : u.same v) :
    (Operand.constant u).scalar.Agrees (Operand.constant v).scalar := by
  rcases Literal.eq_or_real_of_same h with rfl | ⟨x, y, rfl, rfl, h⟩
  · exact .refl _
  · exact .real h

theorem Operand.equal_congr (style : BooleanStyle) (a : Operand) {u v : Literal}
    (h : u.same v) : equal style a (.constant u) = equal style a (.constant v) := by
  rw [equal_comm, equal_congr_left (Literal.agrees_scalar h), equal_comm]

namespace Evaluation

variable (style : BooleanStyle) (scope : Json)

/-- Whether a member equals a constant. -/
def memberEquals (p : Path) (v : Literal) : Bool :=
  Operand.equal style (fieldOperand (scope.resolvePath? p)) (.constant v)

theorem truth_equals (p : Path) (v : Literal) :
    truth style ((Predicate.field p).equals v) scope = .ok (memberEquals style scope p v) := rfl

theorem truth_inList (p : Path) (vs : List Literal) :
    truth style (.inList (.field p) vs) scope = .ok (vs.any (memberEquals style scope p)) := by
  simp only [Predicate.inList, truth, constantTest, Clause.mapM_literal]
  rfl

theorem truth_foldl_equals (p : Path) (vs : List Literal) {e : Predicate} {b : Bool}
    (he : truth style e scope = .ok b) :
    truth style (vs.foldl (fun e v => .logical .or e ((Predicate.field p).equals v)) e) scope =
      .ok (b || vs.any (memberEquals style scope p)) := by
  induction vs generalizing e b with
  | nil => simpa using he
  | cons v vs ih =>
    rw [List.foldl_cons, List.any_cons, ← Bool.or_assoc]
    refine ih ?_
    rw [truth_logical, he, truth_equals]
    cases b <;> rfl

theorem truth_oneOf (p : Path) (vs : List Literal) :
    truth style ((Predicate.field p).oneOf vs) scope =
      .ok (vs.any (memberEquals style scope p)) := by
  cases vs with
  | nil => rfl
  | cons v vs => exact truth_foldl_equals style scope p vs (truth_equals style scope p v)

theorem truth_expand {e : Predicate} (he : Clause.Accepted e) :
    truth style e.expand scope = truth style e scope := by
  induction he with
  | logical op _ _ iha ihb => rw [Predicate.expand, truth_logical, iha, ihb, truth_logical]
  | not _ ih => simp only [Predicate.expand, truth, ih]
  | inList named vs =>
    rw [Predicate.expand_inList, truth_oneOf, truth_inList]
    exact congrArg _ (Clause.any_distinct (fun _ _ => Operand.equal_congr style _) vs)
  | @text t isText p named s => cases t <;> first | rfl | contradiction
  | _ => rfl

end Evaluation

end RecordQuery
