import RecordQuery.Proofs.Clause.Accepted
import RecordQuery.Proofs.Clause.Distinct
import RecordQuery.Proofs.Predicate.Chain
import RecordQuery.Proofs.Predicate.Constituents

/-!
# Membership tests written out

A membership test stands for the alternatives that its different values leave.
-/
namespace RecordQuery

open Clause

namespace Predicate

def equals (target : Predicate) (v : Literal) : Predicate := .compare .eq target (.literal v)

/-- The target equals one of the values; it does not if there are none. -/
def oneOf (target : Predicate) : List Literal → Predicate
  | [] => .literal (.boolean false)
  | v :: vs => vs.foldl (fun e v => .logical .or e (target.equals v)) (target.equals v)

/-- Writes out the membership tests, outside the arguments of other calls. -/
def expand : Predicate → Predicate
  | .logical op a b => .logical op (expand a) (expand b)
  | .not a => .not (expand a)
  | .call .inList target arguments => target.oneOf (distinct (arguments.filterMap literal?))
  | e => e

/-- Whether no membership test is left. -/
def isExpanded : Predicate → Bool
  | .logical _ a b => isExpanded a && isExpanded b
  | .not a => isExpanded a
  | .call .inList _ _ => false
  | _ => true

@[simp] theorem expand_inList (target : Predicate) (vs : List Literal) :
    expand (.inList target vs) = target.oneOf (distinct vs) := by
  rw [inList, expand, filterMap_literal]

/-- What holds of all equations and is kept by `or` holds of the alternatives. -/
theorem oneOf_induction {target : Predicate} {P : Predicate → Prop}
    (none : P (.literal (.boolean false))) {vs : List Literal}
    (equation : ∀ v ∈ vs, P (target.equals v))
    (or : ∀ a, ∀ v ∈ vs, P a → P (.logical .or a (target.equals v))) : P (target.oneOf vs) := by
  cases vs with
  | nil => exact none
  | cons v vs =>
    refine List.foldlRecOn vs _ (equation v (by simp)) fun a ha u hu => ?_
    exact or a u (List.mem_cons_of_mem _ hu) ha

section Constituents

variable {P : Path → Prop} {L : Literal → Prop}

theorem Each.oneOf {target : Predicate} (ht : Each P L target) {vs : List Literal}
    (hv : ∀ v ∈ vs, L v) (hfalse : L (.boolean false)) : Each P L (target.oneOf vs) :=
  oneOf_induction hfalse (fun v h => ⟨ht, hv v h⟩) fun _ v h ha => ⟨ha, ht, hv v h⟩

/-- Writing out an empty list brings in the constant false. -/
theorem Each.expand (hfalse : L (.boolean false)) :
    ∀ {e : Predicate}, Each P L e → Each P L e.expand
  | .logical .., h => ⟨h.1.expand hfalse, h.2.expand hfalse⟩
  | .not a, h => Each.expand hfalse (e := a) h
  | .call .inList _ _, h =>
    h.1.oneOf (fun _ hv => h.2.literal (Clause.mem_of_mem_distinct hv)) hfalse
  | .literal _, h | .field _, h | .compare .., h => h
  | .call .contains _ _, h | .call .startsWith _ _, h | .call .endsWith _ _, h => h
  | .call .any _ _, h | .call .anyMatch _ _, h => h

end Constituents

end Predicate

namespace Clause

theorem Accepted.equals {p : Path} (named : p.isCurrent = false) (v : Literal) :
    Accepted ((Predicate.field p).equals v) := .compare .eq (.field named) (.literal v)

theorem Accepted.expand {e : Predicate} (he : Accepted e) : Accepted e.expand := by
  induction he with
  | literal v => exact .literal v
  | field named => exact .field named
  | compare op left right => exact .compare op left right
  | logical op _ _ iha ihb => exact .logical op iha ihb
  | not _ ih => exact .not ih
  | @text t isText p named s => cases t <;> first | exact .text isText named s | contradiction
  | any named => exact .any named
  | anyMatch named v => exact .anyMatch named v
  | inList named vs =>
    rw [Predicate.expand_inList]
    exact Predicate.oneOf_induction (.literal _) (fun v _ => .equals named v)
      fun a v _ ha => .logical .or ha (.equals named v)

theorem isExpanded_expand : ∀ e : Predicate, e.expand.isExpanded
  | .logical _ a b => by
    simp [Predicate.expand, Predicate.isExpanded, isExpanded_expand a, isExpanded_expand b]
  | .not a => isExpanded_expand a
  | .call .inList target arguments => by
    refine Predicate.oneOf_induction (P := fun e => e.isExpanded) rfl (fun v _ => rfl)
      fun a v _ ha => ?_
    simp [Predicate.isExpanded, ha, Predicate.equals]
  | .literal _ | .field _ | .compare .. => rfl
  | .call .contains _ _ | .call .startsWith _ _ | .call .endsWith _ _ => rfl
  | .call .any _ _ | .call .anyMatch _ _ => rfl

theorem Accepted.join {op : Connective} {a : Predicate} (ha : Accepted a) :
    ∀ {b : Predicate}, Accepted b → Accepted (a.join op b)
  | .logical op' b c, hb => by
    have ⟨left, right⟩ := Accepted.logical_iff.mp hb
    unfold Predicate.join
    split
    · exact .logical op (ha.join left) right
    · exact .logical op ha hb
  | .literal _, hb | .field _, hb | .compare .., hb | .not _, hb | .call .., hb =>
    .logical op ha hb

theorem Accepted.leftward : ∀ {e : Predicate}, Accepted e → Accepted e.leftward
  | .logical .., he =>
    have ⟨left, right⟩ := Accepted.logical_iff.mp he
    left.leftward.join right.leftward
  | .not _, he => .not (Accepted.not_iff.mp he).leftward
  | .literal _, he | .field _, he | .compare .., he | .call .., he => he

end Clause

end RecordQuery
