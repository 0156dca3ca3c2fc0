import RecordQuery.Proofs.Predicate.Folding

/-!
# Folded predicates as normal forms

The predicates that folding leaves alone are those in which no boolean constant is left to fold, and
folding reaches one of them at once. It only leaves things out: what is left stands in the same
order as before.
-/
namespace RecordQuery.Predicate

mutual

/-- How many predicates there are in a predicate, comparisons and calls with all they hold. -/
def nodes : Predicate → Nat
  | .literal _ | .field _ => 1
  | .compare _ a b | .logical _ a b => nodes a + nodes b + 1
  | .not a => nodes a + 1
  | .call _ target arguments => nodes target + nodesAll arguments + 1

def nodesAll : List Predicate → Nat
  | [] => 0
  | p :: ps => nodes p + nodesAll ps

end

/-- What negations and connectives are made of, from left to right: comparisons, calls, fields and
constants, but for the booleans. -/
def atoms : Predicate → List Predicate
  | .not a => atoms a
  | .logical _ a b => atoms a ++ atoms b
  | .literal (.boolean _) => []
  | p => [p]

variable {op : Connective} {a b c : Predicate}

theorem foldNot_of_constant? (h : a.constant? = none) : foldNot a = .not a := by
  obtain ⟨x, rfl, -⟩ | ⟨-, hfold⟩ := foldNot_eq a
  · contradiction
  · exact hfold

theorem foldLogical_of_constant? (ha : a.constant? = none) (hb : b.constant? = none) :
    foldLogical op a b = .logical op a b := by
  cases op <;> simp [foldLogical, ha, hb]

theorem fold_of_isFolded : ∀ {e : Predicate}, e.IsFolded → e.fold = e
  | .logical _ _ _, h => by
    obtain ⟨⟨hleft, ha⟩, hright, hb⟩ := h
    rw [fold, fold_of_isFolded ha, fold_of_isFolded hb, foldLogical_of_constant? hleft hright]
  | .not _, h => by
    obtain ⟨hnone, ha⟩ := h
    rw [fold, fold_of_isFolded ha, foldNot_of_constant? hnone]
  | .literal _, _ | .field _, _ | .compare .., _ | .call .., _ => rfl

theorem fold_eq_self_iff {e : Predicate} : e.fold = e ↔ e.IsFolded := by
  refine ⟨fun h => ?_, fold_of_isFolded⟩
  rw [← h]
  exact isFolded_fold e

theorem nodes_of_folds (h : Folds op a b c) : c.nodes ≤ a.nodes + b.nodes + 1 := by
  cases h with
  | decided => simp [nodes]
  | second => omega
  | first => omega
  | kept => simp [nodes]

theorem nodes_foldNot_le (a : Predicate) : (foldNot a).nodes ≤ a.nodes + 1 := by
  obtain ⟨x, -, hfold⟩ | ⟨-, hfold⟩ := foldNot_eq a <;> simp [hfold, nodes]

theorem nodes_fold_le : ∀ e : Predicate, e.fold.nodes ≤ e.nodes
  | .logical op a b => by
    have ha := nodes_fold_le a
    have hb := nodes_fold_le b
    have h := nodes_of_folds (folds_foldLogical op a.fold b.fold)
    simp only [fold, nodes]
    omega
  | .not a => by
    have ha := nodes_fold_le a
    have h := nodes_foldNot_le a.fold
    simp only [fold, nodes]
    omega
  | .literal _ | .field _ | .compare .. | .call .. => le_rfl

theorem atoms_of_folds (h : Folds op a b c) : c.atoms.Sublist (a.atoms ++ b.atoms) := by
  cases h with
  | decided => exact List.nil_sublist _
  | second => exact List.sublist_append_right _ _
  | first => exact List.sublist_append_left _ _
  | kept => exact List.Sublist.refl _

theorem atoms_foldNot_sublist (a : Predicate) : (foldNot a).atoms.Sublist a.atoms := by
  obtain ⟨x, -, hfold⟩ | ⟨-, hfold⟩ := foldNot_eq a <;> simp [hfold, atoms]

theorem atoms_fold_sublist : ∀ e : Predicate, e.fold.atoms.Sublist e.atoms
  | .logical op a b =>
    (atoms_of_folds (folds_foldLogical op a.fold b.fold)).trans
      ((atoms_fold_sublist a).append (atoms_fold_sublist b))
  | .not a => (atoms_foldNot_sublist a.fold).trans (atoms_fold_sublist a)
  | .literal _ | .field _ | .compare .. | .call .. => List.Sublist.refl _

/-- Outside of comparisons and calls, a folded predicate has no boolean constant under a negation or
a connective, and these are the predicates on which folding has nothing to do. It has no more nodes
than before, and its atoms are among those of before, in their order. -/
theorem fold_normalizes (e : Predicate) :
    e.fold.IsFolded ∧ e.fold.fold = e.fold ∧ (e.fold = e ↔ e.IsFolded) ∧
      e.fold.nodes ≤ e.nodes ∧ e.fold.atoms.Sublist e.atoms :=
  ⟨isFolded_fold e, fold_of_isFolded (isFolded_fold e), fold_eq_self_iff, nodes_fold_le e,
    atoms_fold_sublist e⟩

/-- A constant made by a negation runs through two connectives and another negation. -/
example :
    let a : Predicate := .field ⟨["A"]⟩
    let falsity : Predicate := .not (.literal (.boolean true))
    fold (.logical .or (.not (.logical .and falsity a)) a) = .literal (.boolean true) := by
  rfl

end RecordQuery.Predicate
