import Mathlib
import RecordQuery.Number.Binary64

/-!
# The order of floating-point numbers

Comparing two numbers the other way round turns the answer round, and what is no number stays
outside of every comparison. Numbers that are the same are never told apart by a comparison.
-/
namespace RecordQuery

/-! Orders that may be missing, turned round. -/

theorem map_swap_beq_eq (o : Option Ordering) :
    (o.map Ordering.swap == some .eq) = (o == some .eq) := by
  rcases o with _ | _ | _ | _ <;> rfl

theorem map_swap_beq_lt (o : Option Ordering) :
    (o.map Ordering.swap == some .lt) = (o == some .gt) := by
  rcases o with _ | _ | _ | _ <;> rfl

namespace Binary64

variable {x y z : Binary64}

theorem map_swap_compare? (x y : Binary64) :
    (x.compare? y).map Ordering.swap = y.compare? x := by
  unfold compare?
  rw [Bool.or_comm]
  split
  · rfl
  · rw [Option.map_some, ← Std.OrientedOrd.eq_swap]

/-- The same are two numbers with one place in the order. -/
theorem same_iff : x.same y ↔ (x.isNaN = false ∧ y.isNaN = false) ∧ x.place = y.place := by
  unfold same compare?
  cases x.isNaN <;> cases y.isNaN <;> simp

theorem same_comm (x y : Binary64) : x.same y = y.same x := by
  rw [same, same, ← map_swap_compare? x y, map_swap_beq_eq]

theorem same_trans (h : x.same y) (h' : y.same z) : x.same z := by
  obtain ⟨⟨hx, -⟩, hxy⟩ := same_iff.mp h
  obtain ⟨⟨-, hz⟩, hyz⟩ := same_iff.mp h'
  exact same_iff.mpr ⟨⟨hx, hz⟩, hxy.trans hyz⟩

theorem compare?_congr (h : x.same y) (z : Binary64) : z.compare? x = z.compare? y := by
  obtain ⟨⟨hx, hy⟩, hplace⟩ := same_iff.mp h
  rw [compare?, compare?, hx, hy, hplace]

theorem compare?_congr_left (h : x.same y) (z : Binary64) : x.compare? z = y.compare? z := by
  rw [← map_swap_compare? z x, ← map_swap_compare? z y, compare?_congr h]

end Binary64

end RecordQuery
