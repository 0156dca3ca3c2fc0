import RecordQuery.Evaluation.Evaluator
import RecordQuery.Proofs.Result
import RecordQuery.Query.Basic

/-!
# Where failures come from

Writing a predicate as a clause fails only with a node that has no clause, and evaluating it only
with a node that has no truth value. So a query that is asked for or a record that is looked at
never makes a run look cancelled or refused by the service.
-/
namespace RecordQuery

/-- Every failure of a step is of one sort. -/
def FailsOnly {ε α : Type} (P : ε → Prop) (x : Except ε α) : Prop := ∀ e, x = .error e → P e

namespace FailsOnly

variable {ε α β : Type} {P : ε → Prop}

theorem ok (a : α) : FailsOnly P (.ok a) := nofun

theorem error {e : ε} (h : P e) : FailsOnly P (.error e : Except ε α) := by
  rintro _ ⟨⟩
  exact h

theorem bind {x : Except ε α} {f : α → Except ε β} (hx : FailsOnly P x)
    (hf : ∀ a, FailsOnly P (f a)) : FailsOnly P (x >>= f) := by
  cases x with
  | error e => exact error (hx e rfl)
  | ok a => exact hf a

theorem map {x : Except ε α} (hx : FailsOnly P x) (f : α → β) : FailsOnly P (x.map f) := by
  cases x with
  | error e => exact error (hx e rfl)
  | ok a => exact ok (f a)

end FailsOnly

namespace Failure

def IsUncompilable (f : Failure) : Prop := ∃ node, f = .uncompilable node

def IsUnevaluable (f : Failure) : Prop := ∃ node, f = .unevaluable node

end Failure

namespace Clause

open Failure (IsUncompilable)

variable (style : BooleanStyle)

theorem failsOnly_path (p : Path) : FailsOnly IsUncompilable (path p) := by
  unfold path
  split
  · exact .error ⟨_, rfl⟩
  · exact .ok _

theorem failsOnly_operand (e : Predicate) : FailsOnly IsUncompilable (operand style e) := by
  cases e with
  | literal v => exact .ok _
  | field p => exact failsOnly_path p
  | _ => exact .error ⟨_, rfl⟩

theorem failsOnly_test (t : Test) (arguments : List Predicate) (member : List Char) :
    FailsOnly IsUncompilable (test style t arguments member) := by
  cases t <;> simp only [test] <;> split <;> first | exact .ok _ | exact .error ⟨_, rfl⟩

theorem failsOnly_call (t : Test) (target : Predicate) (arguments : List Predicate) :
    FailsOnly IsUncompilable (call style t target arguments) := by
  cases target with
  | field p => exact (failsOnly_path p).bind fun member => failsOnly_test style t arguments member
  | _ => exact .error ⟨_, rfl⟩

theorem failsOnly_chars (parent : Option Connective) (e : Predicate) :
    FailsOnly IsUncompilable (chars style parent e) := by
  fun_induction chars style parent e with
  | case1 => exact .ok _
  | case2 _ p => exact failsOnly_path p
  | case3 _ op a b =>
    exact (failsOnly_operand style a).bind fun _ => (failsOnly_operand style b).bind fun _ => .ok _
  | case4 _ op a b iha ihb => exact iha.bind fun _ => ihb.bind fun _ => .ok _
  | case5 _ a iha => exact iha.bind fun _ => .ok _
  | case6 _ t target arguments => exact failsOnly_call style t target arguments

end Clause

theorem Query.failsOnly_collectionRequest (q : Query) :
    FailsOnly Failure.IsUncompilable q.collectionRequest := by
  have hclause : FailsOnly Failure.IsUncompilable q.clause := by
    unfold Query.clause
    split
    · exact .ok _
    · exact ((Clause.failsOnly_chars _ _ _).map _).map _
  exact (hclause.bind fun _ => .ok _).bind fun _ => .ok _

namespace Evaluation

open Failure (IsUnevaluable)

variable (style : BooleanStyle)

theorem failsOnly_fieldTruth (value : Option Json) :
    FailsOnly IsUnevaluable (fieldTruth style value) := by
  unfold fieldTruth
  split
  · exact .ok _
  · split
    · exact .ok _
    · exact .error ⟨_, rfl⟩
  · exact .ok _
  · exact .ok _
  · exact .error ⟨_, rfl⟩

theorem failsOnly_operand (scope : Json) (e : Predicate) :
    FailsOnly IsUnevaluable (operand scope e) := by
  cases e with
  | literal v => exact .ok _
  | field p => exact .ok _
  | _ => exact .error ⟨_, rfl⟩

theorem failsOnly_constantTest (t : Test) (arguments : List Predicate) (value : Option Json) :
    FailsOnly IsUnevaluable (constantTest style t arguments value) := by
  cases t <;> simp only [constantTest] <;> split <;>
    first | exact .ok _ | exact .error ⟨_, rfl⟩ | (split <;> exact .ok _)

theorem failsOnly_someElement {condition : Json → Except Failure Bool} {items : List Json}
    (h : ∀ item, FailsOnly IsUnevaluable (condition item)) :
    FailsOnly IsUnevaluable (someElement condition items) := by
  induction items with
  | nil => exact .ok _
  | cons item rest ih =>
    refine (h item).bind fun b => ?_
    cases b with
    | true => exact .ok _
    | false => exact ih

mutual

theorem failsOnly_truth : ∀ (e : Predicate) (scope : Json),
    FailsOnly IsUnevaluable (truth style e scope)
  | .literal v, scope => by
    cases v with
    | boolean b => exact .ok _
    | _ => exact .error ⟨_, rfl⟩
  | .field p, scope => failsOnly_fieldTruth style _
  | .compare op a b, scope =>
    (failsOnly_operand scope a).bind fun _ => (failsOnly_operand scope b).bind fun _ => .ok _
  | .logical .and a b, scope => by
    refine (failsOnly_truth a scope).bind fun x => ?_
    cases x with
    | true => exact failsOnly_truth b scope
    | false => exact .ok _
  | .logical .or a b, scope => by
    refine (failsOnly_truth a scope).bind fun x => ?_
    cases x with
    | true => exact .ok _
    | false => exact failsOnly_truth b scope
  | .not a, scope => (failsOnly_truth a scope).bind fun _ => .ok _
  | .call t target arguments, scope => by
    cases target with
    | field p =>
      cases t with
      | any =>
        rw [truth]
        split
        · exact failsOnly_anyTruth arguments _
        · exact .ok _
      | _ => exact failsOnly_constantTest style _ arguments _
    | _ => cases t <;> exact .error ⟨_, rfl⟩

theorem failsOnly_anyTruth : ∀ (arguments : List Predicate) (items : List Json),
    FailsOnly IsUnevaluable (anyTruth style arguments items)
  | [], _ => .ok _
  | [condition], _ => failsOnly_someElement fun item => failsOnly_truth condition item
  | _ :: _ :: _, _ => .error ⟨_, rfl⟩

end

end Evaluation

end RecordQuery
