import RecordQuery.Evaluation.Evaluator
import RecordQuery.Proofs.Predicate.Chain

/-!
# The truth of chains

A connective looks at its second operand only if the first one leaves the outcome open, and a
failure of either one is its own. So the brackets of a chain do not matter on any record, even if
some operand has no truth value there. What a condition does to the elements of a collection is all
that matters of either.
-/
namespace RecordQuery.Evaluation

variable (style : BooleanStyle) (scope : Json)

/-- The outcome of a connective, from the outcome of its first operand and that of its second. -/
def connect (op : Connective) (a b : Except Failure Bool) : Except Failure Bool :=
  a >>= fun x => if x = decide (op = .or) then .ok x else b

theorem truth_logical (op : Connective) (a b : Predicate) :
    truth style (.logical op a b) scope =
      connect op (truth style a scope) (truth style b scope) := by
  cases op <;> cases h : truth style a scope with
  | error _ => simp [truth, connect, h, bind, Except.bind]
  | ok x => cases x <;> simp [truth, connect, h, bind, Except.bind, pure, Except.pure]

theorem connect_assoc (op : Connective) (a b c : Except Failure Bool) :
    connect op a (connect op b c) = connect op (connect op a b) c := by
  cases a with
  | error _ => rfl
  | ok x => cases op <;> cases x <;> rfl

theorem truth_join (op : Connective) (a : Predicate) :
    ∀ b, truth style (a.join op b) scope = truth style (.logical op a b) scope
  | .logical op' b c => by
    by_cases h : op' = op
    · subst h
      simp only [Predicate.join_logical, truth_logical, truth_join op' a b, connect_assoc]
    · simp [Predicate.join, h]
  | .literal _ | .field _ | .compare .. | .not _ | .call .. => rfl

/-- Moving the brackets of all chains to the left changes no outcome. -/
theorem truth_leftward : ∀ e : Predicate, truth style e.leftward scope = truth style e scope
  | .logical op a b => by
    rw [Predicate.leftward, truth_join, truth_logical, truth_logical, truth_leftward a,
      truth_leftward b]
  | .not a => by simp only [Predicate.leftward, truth, truth_leftward a]
  | .literal _ | .field _ | .compare .. | .call .. => rfl

theorem someElement_congr {condition condition' : Json → Except Failure Bool} {xs ys : List Json}
    (h : List.Forall₂ (fun x y => condition x = condition' y) xs ys) :
    someElement condition xs = someElement condition' ys := by
  induction h with
  | nil => rfl
  | cons hfirst _ ih => rw [someElement, someElement, hfirst, ih]

end RecordQuery.Evaluation
