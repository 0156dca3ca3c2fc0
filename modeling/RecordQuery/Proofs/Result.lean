import Mathlib

/-!
# Results of steps

When steps that may fail succeed, and what holds of a row of steps when one is added.
-/
namespace RecordQuery

variable {ε α β : Type}

theorem bind_eq_ok_iff {x : Except ε α} {f : α → Except ε β} {b : β} :
    x >>= f = .ok b ↔ ∃ a, x = .ok a ∧ f a = .ok b := by
  cases x <;> simp [bind, Except.bind]

theorem map_eq_ok_iff {x : Except ε α} {f : α → β} {b : β} :
    x.map f = .ok b ↔ ∃ a, x = .ok a ∧ f a = b := by
  cases x <;> simp [Except.map]

theorem mapM_eq_some_map {xs : List α} {f : α → Option β} {g : α → β}
    (h : ∀ x ∈ xs, f x = some (g x)) : xs.mapM f = some (xs.map g) := by
  induction xs with
  | nil => rfl
  | cons x xs ih =>
    have hrest := ih fun y hy => h y (List.mem_cons_of_mem _ hy)
    simp [h x List.mem_cons_self, hrest]

theorem isSome_of_mapM_eq_some {xs : List α} {ys : List β} {f : α → Option β}
    (h : xs.mapM f = some ys) : ∀ x ∈ xs, (f x).isSome := by
  induction xs generalizing ys with
  | nil => simp
  | cons x xs ih =>
    simp only [List.mapM_cons, Option.bind_eq_bind, Option.bind_eq_some_iff] at h
    obtain ⟨y, hy, rest, hrest, -⟩ := h
    exact List.forall_mem_cons.mpr ⟨by simp [hy], ih hrest⟩

theorem forall_getElem?_front {P : Nat → α → Prop} {xs ys : List α}
    (h : ∀ i x, (xs ++ ys)[i]? = some x → P i x) : ∀ i x, xs[i]? = some x → P i x := by
  intro i x hx
  refine h i x ?_
  rw [List.getElem?_append_left (List.getElem?_eq_some_iff.mp hx).1, hx]

theorem forall_getElem?_snoc {P : Nat → α → Prop} {xs : List α} {y : α}
    (h : ∀ i x, xs[i]? = some x → P i x) (hy : P xs.length y) :
    ∀ i x, (xs ++ [y])[i]? = some x → P i x := by
  intro i x hx
  rcases Nat.lt_trichotomy i xs.length with hlt | rfl | hgt
  · rw [List.getElem?_append_left hlt] at hx
    exact h i x hx
  · rw [List.getElem?_concat_length] at hx
    rwa [← Option.some.inj hx]
  · rw [List.getElem?_eq_none (by simpa using hgt)] at hx
    contradiction

end RecordQuery
