import RecordQuery.Proofs.Evaluation.Comparison
import RecordQuery.Proofs.Number.Rounding

/-!
# Comparing numbers

Two integers that both fit into sixty-four bits with a sign are compared as they are. Any other two
numbers are compared as the floating-point numbers nearest to them. That never turns an order round,
but numbers close to each other may become one, and then all six comparisons answer as for equal
numbers. A number below `2 ^ 53` is told apart from every other.
-/
namespace RecordQuery

/-- The relation of two values that a comparison asks for. -/
def Comparison.Relates {α : Type} [LT α] [LE α] : Comparison → α → α → Prop
  | .eq, x, y => x = y
  | .ne, x, y => x ≠ y
  | .gt, x, y => y < x
  | .ge, x, y => y ≤ x
  | .lt, x, y => x < y
  | .le, x, y => x ≤ y

namespace Comparison

variable {α β : Type} [LinearOrder α] [LinearOrder β] {f : α → β} {m n : α} (op : Comparison)

/-- A function that keeps the order of two values and does not make one of them. -/
theorem relates_monotone (hf : Monotone f) (h : f m = f n → m = n) :
    op.Relates (f m) (f n) ↔ op.Relates m n := by
  rcases lt_trichotomy m n with hlt | rfl | hlt
  · have hf' : f m < f n := (hf hlt.le).lt_of_ne (mt h hlt.ne)
    cases op <;> simp [Relates, hlt, hlt.ne, hlt.le, hlt.not_ge, hlt.not_gt, hf', hf'.ne, hf'.le,
      hf'.not_ge, hf'.not_gt]
  · cases op <;> simp [Relates]
  · have hf' : f n < f m := (hf hlt.le).lt_of_ne fun heq => hlt.ne (h heq.symm).symm
    cases op <;> simp [Relates, hlt, hlt.ne', hlt.le, hlt.not_ge, hlt.not_gt, hf', hf'.ne', hf'.le,
      hf'.not_ge, hf'.not_gt]

theorem relates_self (x : α) (y : β) : op.Relates x x ↔ op.Relates y y := by
  cases op <;> simp [Relates]

end Comparison

namespace Scalar

/-- Numbers as a comparison sees them, and the exact values they stand for. -/
inductive Stands : Scalar → ℚ → Prop
  | integer (i : ℤ) : Stands (.integer i) i
  /-- An integer that is seen as the floating-point number nearest to it. -/
  | outsized (i : ℤ) : Stands (.real (.ofInt i)) i
  | real {r : Binary64} (finite : r.isFinite) : Stands (.real r) r.value

def isInteger : Scalar → Bool
  | .integer _ => true
  | _ => false

/-- The floating-point number nearest to a number; what is no number has none. -/
def nearest : Scalar → Binary64
  | .integer i => .ofInt i
  | .real r => r
  | _ => .nan

variable {s t : Scalar} {x y : ℚ}

open Binary64

/-- Values are whole numbers of units. Only those of integers beyond `2 ^ 53` are rounded. -/
theorem Stands.exists_units (h : s.Stands x) : ∃ n : ℤ, x = n / unitsPerOne ∧
    s.nearest.isNaN = false ∧ s.nearest.place = nearestPlace n ∧
    (|n| ≤ 2 ^ 53 * unitsPerOne → nearestUnits n = n) := by
  have hone : (0 : ℤ) < unitsPerOne := by exact_mod_cast unitsPerOne_pos
  have hinteger (i : ℤ) : ∃ n : ℤ, (i : ℚ) = n / unitsPerOne ∧ (ofInt i).isNaN = false ∧
      (ofInt i).place = nearestPlace n ∧
      (|n| ≤ 2 ^ 53 * unitsPerOne → nearestUnits n = n) := by
    refine ⟨i * unitsPerOne, ?_, isNaN_ofInt i, place_ofInt i, fun hi => ?_⟩
    · have hne : (unitsPerOne : ℚ) ≠ 0 := by exact_mod_cast hone.ne'
      push_cast
      rw [mul_div_cancel_right₀ _ hne]
    · rw [abs_mul, abs_of_pos hone] at hi
      have habs := le_of_mul_le_mul_right hi hone
      rw [← Int.natCast_natAbs] at habs
      exact nearestUnits_mul (by exact_mod_cast habs)
  cases h with
  | integer i => exact hinteger i
  | outsized i => exact hinteger i
  | real finite =>
    exact ⟨_, value_eq _, isNaN_of_isFinite finite, (nearestPlace_units finite).symm,
      fun _ => nearestUnits_units finite⟩

theorem Stands.order? (style : BooleanStyle) (hs : s.Stands x) (ht : t.Stands y)
    (h : ¬(s.isInteger ∧ t.isInteger)) :
    s.order? style t = some (compare s.nearest.place t.nearest.place) := by
  obtain ⟨-, -, hs', -⟩ := hs.exists_units
  obtain ⟨-, -, ht', -⟩ := ht.exists_units
  cases hs <;> cases ht <;>
    simp_all [Scalar.order?, isInteger, nearest, compare?]

/-- A number below `2 ^ 53` is not rounded to the same as another one. -/
theorem Stands.eq_of_nearest (hs : s.Stands x) (ht : t.Stands y) (hx : |x| < 2 ^ 53)
    (h : s.nearest.place = t.nearest.place) : x = y := by
  have hone : (0 : ℚ) < unitsPerOne := by exact_mod_cast unitsPerOne_pos
  obtain ⟨m, rfl, -, hsplace, hm⟩ := hs.exists_units
  obtain ⟨n, rfl, -, htplace, hn⟩ := ht.exists_units
  rw [abs_div, abs_of_pos hone, div_lt_iff₀ hone] at hx
  have hlt : |m| < 2 ^ 53 * unitsPerOne := by exact_mod_cast hx
  have hunits : nearestUnits n = m := by
    rw [← hm hlt.le, nearestUnits, nearestUnits, ← hsplace, ← htplace, h]
  rcases le_or_gt |n| (2 ^ 53 * unitsPerOne) with hle | hgt
  · rw [← hunits, hn hle]
  -- a number outside of these bounds is not rounded into them, for the bounds are not rounded
  · obtain ⟨hlow, hhigh⟩ := abs_lt.mp hlt
    rcases lt_abs.mp hgt with hgt | hgt
    · have hle := monotone_nearestUnits hgt.le
      rw [nearestUnits_mul (by decide), hunits] at hle
      exact absurd hhigh hle.not_gt
    · have hle := monotone_nearestUnits (show n ≤ -2 ^ 53 * unitsPerOne by linarith)
      rw [nearestUnits_mul (by decide), hunits] at hle
      linarith

theorem Stands.relates_places (hs : s.Stands x) (ht : t.Stands y)
    (h : s.nearest.place = t.nearest.place → x = y) (op : Comparison) :
    op.Relates s.nearest.place t.nearest.place ↔ op.Relates x y := by
  have hone : (0 : ℚ) < unitsPerOne := by exact_mod_cast unitsPerOne_pos
  obtain ⟨m, rfl, -, hsplace, -⟩ := hs.exists_units
  obtain ⟨n, rfl, -, htplace, -⟩ := ht.exists_units
  have hvalue : StrictMono fun n : ℤ => (n : ℚ) / unitsPerOne := fun _ _ hlt =>
    div_lt_div_of_pos_right (Int.cast_lt.mpr hlt) hone
  rw [hsplace, htplace] at h ⊢
  rw [op.relates_monotone monotone_nearestPlace fun heq => hvalue.injective (h heq)]
  exact (op.relates_monotone hvalue.monotone fun heq => hvalue.injective heq).symm

end Scalar

namespace Operand

/-- The exact value of a number: an integer of a record with sixty-four bits, with a sign or
without, an integer constant with a sign, or a finite floating-point number. -/
def value? : Operand → Option ℚ
  | .record (.number (.integer i)) =>
    if Number.minSigned ≤ i ∧ i ≤ Number.maxUnsigned then some i else none
  | .constant (.integer i) =>
    if Number.minSigned ≤ i ∧ i ≤ Number.maxSigned then some i else none
  | .record (.number (.real r)) | .constant (.real r) =>
    if r.isFinite then some r.value else none
  | _ => none

variable {a b : Operand} {x y : ℚ}

theorem stands_of_value? (h : a.value? = some x) : a.scalar.Stands x := by
  unfold value? at h
  split at h
  · simp only [Option.ite_none_right_eq_some, Option.some.injEq] at h
    obtain ⟨-, rfl⟩ := h
    simp only [scalar, Number.scalar]
    split
    · exact .integer _
    · exact .outsized _
  · simp only [Option.ite_none_right_eq_some, Option.some.injEq] at h
    obtain ⟨-, rfl⟩ := h
    exact .integer _
  · simp only [Option.ite_none_right_eq_some, Option.some.injEq] at h
    obtain ⟨hfinite, rfl⟩ := h
    exact .real hfinite
  · simp only [Option.ite_none_right_eq_some, Option.some.injEq] at h
    obtain ⟨hfinite, rfl⟩ := h
    exact .real hfinite
  · contradiction

/-- Two numbers that a comparison takes for one: they have one nearest floating-point number and are
not both integers with a sign. -/
def Merged (a b : Operand) : Prop :=
  ¬(a.scalar.isInteger ∧ b.scalar.isInteger) ∧ a.value? ≠ b.value? ∧
    a.scalar.nearest.same b.scalar.nearest

section Stands

variable (style : BooleanStyle) (ha : a.scalar.Stands x) (hb : b.scalar.Stands y) (op : Comparison)
include ha hb

theorem order?_eq_scalar : order? style a b = a.scalar.order? style b.scalar := by
  unfold order?
  generalize a.scalar = s at ha ⊢
  generalize b.scalar = t at hb ⊢
  cases ha <;> cases hb <;> rfl

omit hb in
theorem not_isStructured : ¬(a.isStructured ∧ b.isStructured) := by
  rintro ⟨h, -⟩
  obtain ⟨j, hj⟩ := isStructured_iff.mp h
  rw [hj] at ha
  cases ha

theorem compare_iff {m n : ℤ} (h : a.scalar.order? style b.scalar = some (Ord.compare m n)) :
    compare style op a b ↔ op.Relates m n := by
  have hequal := equal_eq_order? style a b (not_isStructured ha)
  rw [order?_eq_scalar style ha hb, h] at hequal
  cases op <;> simp [compare, hequal, order?_eq_scalar style ha hb, h, Comparison.Relates,
    compare_lt_iff_lt, compare_gt_iff_gt] <;> omega

theorem compare_integers (h : a.scalar.isInteger ∧ b.scalar.isInteger) :
    compare style op a b ↔ op.Relates x y := by
  obtain ⟨i, hi⟩ : ∃ i, a.scalar = .integer i := by
    cases hs : a.scalar <;> simp_all [Scalar.isInteger]
  obtain ⟨j, hj⟩ : ∃ j, b.scalar = .integer j := by
    cases ht : b.scalar <;> simp_all [Scalar.isInteger]
  rw [compare_iff style ha hb op (m := i) (n := j) (by rw [hi, hj]; rfl)]
  rw [hi] at ha
  rw [hj] at hb
  cases ha
  cases hb
  exact (op.relates_monotone Int.cast_mono fun heq => Int.cast_injective heq).symm

theorem compare_places (h : ¬(a.scalar.isInteger ∧ b.scalar.isInteger)) :
    compare style op a b ↔ op.Relates a.scalar.nearest.place b.scalar.nearest.place :=
  compare_iff style ha hb op (ha.order? style hb h)

end Stands

theorem merged_iff (ha : a.value? = some x) (hb : b.value? = some y) :
    Merged a b ↔ ¬(a.scalar.isInteger ∧ b.scalar.isInteger) ∧ x ≠ y ∧
      a.scalar.nearest.place = b.scalar.nearest.place := by
  obtain ⟨-, -, hx, -⟩ := (stands_of_value? ha).exists_units
  obtain ⟨-, -, hy, -⟩ := (stands_of_value? hb).exists_units
  simp [Merged, ha, hb, Binary64.same_iff, hx, hy]

/-- Two numbers are compared by their exact values unless they are merged, and then as equal ones.
Neither of two merged numbers is below `2 ^ 53`. -/
theorem compare_numbers (style : BooleanStyle) (ha : a.value? = some x) (hb : b.value? = some y) :
    ((∀ op, compare style op a b ↔ op.Relates x y) ↔ ¬Merged a b) ∧
      (Merged a b → ∀ op, compare style op a b ↔ op.Relates x x) ∧
      (|x| < 2 ^ 53 ∨ |y| < 2 ^ 53 → ¬Merged a b) := by
  have hs := stands_of_value? ha
  have ht := stands_of_value? hb
  have hmerged : Merged a b → ∀ op, compare style op a b ↔ op.Relates x x := by
    intro h op
    obtain ⟨hintegers, -, hplace⟩ := (merged_iff ha hb).mp h
    rw [compare_places style hs ht op hintegers, hplace]
    exact op.relates_self _ _
  refine ⟨⟨fun hexact h => ?_, fun h op => ?_⟩, hmerged, ?_⟩
  · have hequal := (hexact .eq).mp ((hmerged h .eq).mpr rfl)
    exact ((merged_iff ha hb).mp h).2.1 hequal
  · by_cases hintegers : a.scalar.isInteger ∧ b.scalar.isInteger
    · exact compare_integers style hs ht op hintegers
    · rw [compare_places style hs ht op hintegers]
      refine hs.relates_places ht (fun hplace => ?_) op
      by_contra hne
      exact h ((merged_iff ha hb).mpr ⟨hintegers, hne, hplace⟩)
  · intro hsmall h
    obtain ⟨-, hne, hplace⟩ := (merged_iff ha hb).mp h
    rcases hsmall with hx | hy
    · exact hne (hs.eq_of_nearest ht hx hplace)
    · exact hne (ht.eq_of_nearest hs hy hplace.symm).symm

/-- The integer after `2 ^ 53` in a record, and that power as a floating-point constant: the greater
one is not greater, but it is equal to, and so at most, the other. -/
theorem compare_numbers_neighbours :
    let a : Operand := .record (.number (.integer 9007199254740993))
    let b : Operand := .constant (.real (.ofInt 9007199254740992))
    a.value? = some 9007199254740993 ∧ b.value? = some 9007199254740992 ∧ Merged a b ∧
      compare .native .gt a b = false ∧ compare .native .eq a b = true ∧
      compare .native .le a b = true := by
  intro a b
  have ha : a.value? = some 9007199254740993 := rfl
  have hfinite : (Binary64.ofInt 9007199254740992).isFinite := by decide +kernel
  have hvalue : (Binary64.ofInt 9007199254740992).value = 9007199254740992 :=
    Binary64.value_ofInt (by decide)
  have hb : b.value? = some 9007199254740992 := by
    simp only [b, value?, hfinite, if_true, hvalue]
  have hmerged : Merged a b :=
    ⟨by decide, by rw [ha, hb]; norm_num, by decide +kernel⟩
  have hcompare := (compare_numbers .native ha hb).2.1 hmerged
  refine ⟨ha, hb, hmerged, ?_, (hcompare .eq).mpr rfl, (hcompare .le).mpr le_rfl⟩
  exact Bool.eq_false_iff.mpr fun h => lt_irrefl _ ((hcompare .gt).mp h)

/-- The two greatest integers without a sign are equal for a comparison. -/
theorem greatest_integers_merged :
    let a : Operand := .record (.number (.integer 18446744073709551615))
    let b : Operand := .record (.number (.integer 18446744073709551614))
    ∃ x y, a.value? = some x ∧ b.value? = some y ∧ compare .native .eq a b = true ∧
      ¬Comparison.eq.Relates x y :=
  ⟨18446744073709551615, 18446744073709551614, rfl, rfl, by decide +kernel,
    by norm_num [Comparison.Relates]⟩

end Operand

end RecordQuery
