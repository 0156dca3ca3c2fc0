import RecordQuery.Evaluation.Comparison
import RecordQuery.Proofs.Json.Same

/-!
# Coherence of the comparisons

Equality and order are decided apart from each other. The order of two operands is turned round
when they change places, and equality agrees with it except on two structured values, which have no
order; so the six comparisons fit together for operands of every kind, and none of them tells apart
what agrees up to deep equality.
-/
namespace RecordQuery

theorem Time.Date.swap_compare (a b : Date) : (a.compare b).swap = b.compare a := by
  simp only [compare, Ordering.swap_then, ← Std.OrientedOrd.eq_swap]

theorem Time.Instant.swap_compare (a b : Instant) : (a.compare b).swap = b.compare a := by
  simp only [compare, Ordering.swap_then, Date.swap_compare, ← Std.OrientedOrd.eq_swap]

/-- Two kinds that go together do so in either place. -/
theorem Scalar.map_swap_order? (style : BooleanStyle) (s t : Scalar) :
    (s.order? style t).map Ordering.swap = t.order? style s := by
  cases s <;> cases t <;>
    simp [order?, Function.comp_def, Binary64.map_swap_compare?, Time.Instant.swap_compare,
      ← Std.OrientedOrd.eq_swap]

/-- Values of comparisons that no comparison tells apart. -/
inductive Scalar.Agrees : Scalar → Scalar → Prop
  | refl (s : Scalar) : Agrees s s
  | real {x y : Binary64} (same : x.same y) : Agrees (.real x) (.real y)
  | structured {x y : Json} (same : x.same y) : Agrees (.structured x) (.structured y)

namespace Operand

variable (style : BooleanStyle) (a b : Operand)

/-- An array or an object of a record. -/
def isStructured : Operand → Bool
  | .record (.array _) | .record (.object _) => true
  | _ => false

theorem isStructured_iff {o : Operand} :
    o.isStructured ↔ ∃ value, o.scalar = .structured value := by
  cases o with
  | record j =>
    cases j with
    | number n =>
      cases n with
      | integer i =>
        simp only [isStructured, scalar, Number.scalar]
        split <;> simp
      | real x => simp [isStructured, scalar, Number.scalar]
    | _ => simp [isStructured, scalar]
  | constant v => cases v <;> simp [isStructured, scalar]
  | missing => simp [isStructured, scalar]

theorem map_swap_order? : (order? style a b).map Ordering.swap = order? style b a := by
  unfold order?
  cases a.scalar <;> cases b.scalar <;> first | exact Scalar.map_swap_order? style _ _ | rfl

/-- Two structured values are all that can be equal without being ordered. -/
theorem equal_eq_order? (h : ¬(a.isStructured ∧ b.isStructured)) :
    equal style a b = (order? style a b == some .eq) := by
  rw [isStructured_iff, isStructured_iff] at h
  unfold equal order?
  cases ha : a.scalar <;> cases hb : b.scalar <;> try rfl
  exact absurd ⟨⟨_, ha⟩, _, hb⟩ h

theorem order?_of_isStructured (ha : a.isStructured) (hb : b.isStructured) :
    order? style a b = none := by
  obtain ⟨x, hx⟩ := isStructured_iff.mp ha
  obtain ⟨y, hy⟩ := isStructured_iff.mp hb
  rw [order?, hx, hy]

theorem equal_comm : equal style a b = equal style b a := by
  by_cases h : a.isStructured ∧ b.isStructured
  · obtain ⟨x, hx⟩ := isStructured_iff.mp h.1
    obtain ⟨y, hy⟩ := isStructured_iff.mp h.2
    rw [equal, equal, hx, hy]
    exact Json.same_comm x y
  · rw [equal_eq_order? style a b h, equal_eq_order? style b a (mt And.symm h),
      ← map_swap_order?, map_swap_beq_eq]

theorem order?_of_equal (h : equal style a b) :
    order? style a b = some .eq ∨ order? style a b = none := by
  by_cases hs : a.isStructured ∧ b.isStructured
  · exact .inr (order?_of_isStructured style a b hs.1 hs.2)
  · rw [equal_eq_order? style a b hs] at h
    exact .inl (eq_of_beq h)

section Congruence

variable {style} {a a' b b' : Operand}

theorem equal_congr_left (h : a.scalar.Agrees a'.scalar) (b : Operand) :
    equal style a b = equal style a' b := by
  unfold equal
  generalize a.scalar = s at h ⊢
  generalize a'.scalar = s' at h ⊢
  cases h with
  | refl => rfl
  | real same => cases b.scalar <;> simp [Scalar.order?, Binary64.compare?_congr_left same]
  | @structured x y same =>
    cases b.scalar with
    | structured z =>
      refine Bool.eq_iff_iff.mpr ⟨fun h => ?_, fun h => Json.same_trans same h⟩
      exact Json.same_trans (Json.same_comm x y ▸ same) h
    | _ => rfl

theorem order?_congr_left (h : a.scalar.Agrees a'.scalar) (b : Operand) :
    order? style a b = order? style a' b := by
  unfold order?
  generalize a.scalar = s at h ⊢
  generalize a'.scalar = s' at h ⊢
  cases h with
  | refl => rfl
  | real same => cases b.scalar <;> simp [Scalar.order?, Binary64.compare?_congr_left same]
  | structured => cases b.scalar <;> rfl

theorem compare_congr (op : Comparison) (ha : a.scalar.Agrees a'.scalar)
    (hb : b.scalar.Agrees b'.scalar) : compare style op a b = compare style op a' b' := by
  have hequal : equal style a b = equal style a' b' := by
    rw [equal_congr_left ha, equal_comm, equal_congr_left hb, equal_comm]
  have horder : order? style a b = order? style a' b' := by
    rw [order?_congr_left ha, ← map_swap_order?, order?_congr_left hb, map_swap_order?]
  cases op <;> simp only [compare, hequal, horder]

end Congruence

theorem compare_gt : compare style .gt a b = compare style .lt b a := by
  rw [compare, compare, ← map_swap_order? style a b, map_swap_beq_lt]

theorem compare_ge : compare style .ge a b = compare style .le b a := by
  rw [compare, compare, ← map_swap_order? style a b, map_swap_beq_lt, map_swap_beq_eq]

/-- Less, equal and greater exclude each other. -/
theorem compare_exclusive :
    ¬(compare style .lt a b ∧ compare style .eq a b) ∧
      ¬(compare style .gt a b ∧ compare style .eq a b) ∧
      ¬(compare style .lt a b ∧ compare style .gt a b) := by
  simp only [compare]
  refine ⟨?_, ?_, ?_⟩
  · rintro ⟨hlt, heq⟩
    rcases order?_of_equal style a b heq with h | h <;> simp [h] at hlt
  · rintro ⟨hgt, heq⟩
    rcases order?_of_equal style a b heq with h | h <;> simp [h] at hgt
  · rintro ⟨hlt, hgt⟩
    simp [eq_of_beq hlt] at hgt

/-- The six comparisons of two operands fit together. Only two structured values can be equal
without being smaller or equal, and greater or equal, too. -/
theorem compare_coherent :
    compare style .eq a b = compare style .eq b a ∧
      compare style .ne a b = !compare style .eq a b ∧
      compare style .gt a b = compare style .lt b a ∧
      compare style .ge a b = compare style .le b a ∧
      (¬(compare style .lt a b ∧ compare style .eq a b) ∧
        ¬(compare style .gt a b ∧ compare style .eq a b) ∧
        ¬(compare style .lt a b ∧ compare style .gt a b)) ∧
      (¬(a.isStructured ∧ b.isStructured) →
        compare style .le a b = (compare style .lt a b || compare style .eq a b) ∧
        compare style .ge a b = (compare style .gt a b || compare style .eq a b)) := by
  refine ⟨equal_comm style a b, rfl, compare_gt style a b, compare_ge style a b,
    compare_exclusive style a b, fun h => ?_⟩
  simp only [compare, equal_eq_order? style a b h, and_self]

/-- A text with an offset and the instant it names. -/
theorem compare_coherent_instant :
    let style := BooleanStyle.noYes
    let a : Operand := .record (.string "2024-05-01T14:00:00.5+02:00")
    let b : Operand := .constant (.instant ⟨⟨2024, 5, 1, by decide⟩, ⟨43200, by decide⟩,
      ⟨500000000, by decide⟩, by decide⟩)
    ¬(a.isStructured ∧ b.isStructured) ∧ compare style .eq a b = true ∧
      compare style .le a b = (compare style .lt a b || compare style .eq a b) := by
  intro style a b
  have hkinds : ¬(a.isStructured ∧ b.isStructured) := by decide
  have hequal : compare style .eq a b = true := by decide +kernel
  exact ⟨hkinds, hequal, ((compare_coherent style a b).2.2.2.2.2 hkinds).1⟩

end Operand

end RecordQuery
