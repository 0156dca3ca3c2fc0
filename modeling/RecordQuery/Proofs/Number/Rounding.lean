import Mathlib
import RecordQuery.Proofs.Number.Order

/-!
# Rounding to floating-point numbers

Exact values are counted in units of `2 ^ -1074`, of which every finite number is a whole multiple.
Magnitudes are ordered as the numbers of units that they stand for; rounding keeps the order of what
it rounds and leaves alone what has a magnitude of its own. Integers up to `2 ^ 53` are among these.
-/
namespace RecordQuery.Binary64

/-! An odd function from one on natural numbers. -/

def mirror (g : ℕ → ℕ) (n : ℤ) : ℤ := n.sign * g n.natAbs

section Mirror

variable {f g : ℕ → ℕ}

theorem mirror_natCast (h : g 0 = 0) (n : ℕ) : mirror g n = g n := by
  rcases Nat.eq_zero_or_pos n with rfl | hn
  · simp [mirror, h]
  · simp [mirror, Int.sign_eq_one_of_pos (Int.natCast_pos.mpr hn)]

@[simp] theorem mirror_neg (g : ℕ → ℕ) (n : ℤ) : mirror g (-n) = -mirror g n := by
  simp [mirror]

theorem mirror_mirror (hf : f 0 = 0) (hg : g 0 = 0) (n : ℤ) :
    mirror f (mirror g n) = mirror (f ∘ g) n := by
  have hcomp : (f ∘ g) 0 = 0 := by simp [hf, hg]
  obtain ⟨a, rfl | rfl⟩ := n.eq_nat_or_neg <;>
    simp only [mirror_neg, mirror_natCast hf, mirror_natCast hg, mirror_natCast hcomp,
      Function.comp_apply]

theorem mirror_eq_self {n : ℤ} (h : g n.natAbs = n.natAbs) : mirror g n = n := by
  rw [mirror, h, Int.sign_mul_natAbs]

theorem monotone_mirror (h : g 0 = 0) (hg : Monotone g) : Monotone (mirror g) := by
  intro m n hmn
  obtain ⟨a, rfl | rfl⟩ := m.eq_nat_or_neg <;> obtain ⟨b, rfl | rfl⟩ := n.eq_nat_or_neg <;>
    simp only [mirror_neg, mirror_natCast h]
  · exact_mod_cast hg (by omega)
  · obtain ⟨rfl, rfl⟩ : a = 0 ∧ b = 0 := by omega
    simp [h]
  · omega
  · have := hg (show b ≤ a by omega)
    omega

theorem strictMono_mirror (h : g 0 = 0) (hg : StrictMono g) : StrictMono (mirror g) := by
  refine (monotone_mirror h hg.monotone).strictMono_of_injective fun m n hmn => ?_
  obtain ⟨a, rfl | rfl⟩ := m.eq_nat_or_neg <;> obtain ⟨b, rfl | rfl⟩ := n.eq_nat_or_neg <;>
    simp only [mirror_neg, mirror_natCast h] at hmn
  · rw [hg.injective (by omega : g a = g b)]
  · have ha := hg.le_apply (x := a)
    have hb := hg.le_apply (x := b)
    omega
  · have ha := hg.le_apply (x := a)
    have hb := hg.le_apply (x := b)
    omega
  · rw [hg.injective (by omega : g a = g b)]

end Mirror

/-! Magnitudes and their units. -/

theorem unitsOf_add {shift q : ℕ} (hq : q ≤ 2 * binadeSize) (h : shift = 0 ∨ binadeSize ≤ q) :
    unitsOf (shift * binadeSize + q) = q * 2 ^ shift := by
  have hsize : 0 < binadeSize := by decide
  rcases Nat.lt_or_ge q binadeSize with hlow | hlow
  · obtain rfl : shift = 0 := by omega
    simp [unitsOf, hlow]
  obtain ⟨r, rfl⟩ := Nat.exists_eq_add_of_le hlow
  have hnot : ¬shift * binadeSize + (binadeSize + r) < binadeSize := by omega
  rw [unitsOf, if_neg hnot, show shift * binadeSize + (binadeSize + r) =
    r + binadeSize * (shift + 1) by ring, Nat.add_mul_mod_self_left,
    Nat.add_mul_div_left _ _ hsize, Nat.pow_eq]
  rcases Nat.lt_or_ge r binadeSize with hr | hr
  · rw [Nat.mod_eq_of_lt hr, Nat.div_eq_of_lt hr]
    congr 2
    omega
  -- the end of a row of magnitudes with one exponent is the start of the next
  · obtain rfl : r = binadeSize := by omega
    rw [Nat.mod_self, Nat.div_self hsize, show 1 + (shift + 1) - 1 = shift + 1 by omega, pow_succ]
    ring

theorem exists_shift (m : ℕ) : ∃ shift q, m = shift * binadeSize + q ∧ q < 2 * binadeSize ∧
    (shift = 0 ∨ binadeSize ≤ q) := by
  have hsize : 0 < binadeSize := by decide
  rcases Nat.lt_or_ge m binadeSize with hm | hm
  · exact ⟨0, m, by omega, by omega, .inl rfl⟩
  · have hpos := Nat.div_pos hm hsize
    have hmod := Nat.mod_lt m hsize
    have hdiv := Nat.div_add_mod m binadeSize
    refine ⟨m / binadeSize - 1, binadeSize + m % binadeSize, ?_, by omega, .inr (by omega)⟩
    obtain ⟨k, hk⟩ := Nat.exists_eq_add_of_le' hpos
    rw [hk] at hdiv ⊢
    rw [Nat.add_sub_cancel]
    linarith

theorem strictMono_unitsOf : StrictMono unitsOf := by
  refine strictMono_nat_of_lt_succ fun m => ?_
  obtain ⟨shift, q, rfl, hq, h⟩ := exists_shift m
  rw [unitsOf_add hq.le h, add_assoc, unitsOf_add hq (h.imp_right Nat.le_succ_of_le)]
  exact Nat.mul_lt_mul_of_pos_right (Nat.lt_succ_self q) (by positivity)

theorem unitsOf_zero : unitsOf 0 = 0 := rfl

/-! Rounding of whole numbers of units. -/

theorem roundHalfEven_bounds (n d : ℕ) : n / d ≤ roundHalfEven n d ∧
    roundHalfEven n d ≤ n / d + 1 := by
  unfold roundHalfEven
  dsimp only
  split_ifs <;> omega

theorem roundHalfEven_of_dvd {n d : ℕ} (hd : 0 < d) (h : d ∣ n) : roundHalfEven n d = n / d := by
  simp [roundHalfEven, Nat.mod_eq_zero_of_dvd h, hd]

theorem monotone_roundHalfEven (d : ℕ) : Monotone (roundHalfEven · d) := by
  intro m n hmn
  have hquotient : m / d ≤ n / d := Nat.div_le_div_right hmn
  rcases hquotient.lt_or_eq with hlt | heq
  · have hm := (roundHalfEven_bounds m d).2
    have hn := (roundHalfEven_bounds n d).1
    dsimp only
    omega
  · have hrest : m % d ≤ n % d := by
      have hm := Nat.div_add_mod m d
      have hn := Nat.div_add_mod n d
      rw [heq] at hm
      omega
    simp only [roundHalfEven, heq]
    split_ifs <;> omega

/-- The magnitude nearest to a whole number of units. -/
def nearest (n : ℕ) : ℕ := nearestMagnitude n 1

/-- The magnitude nearest to a whole number of units, were there no greatest one. -/
def rounded (n : ℕ) : ℕ :=
  (n.log2 - 52) * binadeSize + roundHalfEven n (2 ^ (n.log2 - 52))

theorem nearest_eq (n : ℕ) : nearest n = min infiniteMagnitude (rounded n) := by
  simp [nearest, nearestMagnitude, rounded]

/-- What is rounded has as many digits as a magnitude shows, or is small. -/
theorem shifted_bounds (n : ℕ) : n / 2 ^ (n.log2 - 52) < 2 * binadeSize ∧
    (n.log2 - 52 = 0 ∨ binadeSize ≤ n / 2 ^ (n.log2 - 52)) := by
  have hsize : binadeSize = 2 ^ 52 := by decide
  constructor
  · rw [Nat.div_lt_iff_lt_mul (by positivity), hsize, ← pow_succ', ← pow_add]
    exact Nat.lt_log2_self.trans_le (Nat.pow_le_pow_right (by decide) (by omega))
  · rcases Nat.eq_zero_or_pos (n.log2 - 52) with h | h
    · exact .inl h
    · right
      have hn : n ≠ 0 := by
        rintro rfl
        simp at h
      rw [Nat.le_div_iff_mul_le (by positivity), hsize, ← pow_add,
        show 52 + (n.log2 - 52) = n.log2 by omega]
      exact Nat.log2_self_le hn

theorem unitsOf_rounded {n : ℕ} (h : 2 ^ (n.log2 - 52) ∣ n) : unitsOf (rounded n) = n := by
  obtain ⟨hlt, hle⟩ := shifted_bounds n
  rw [rounded, roundHalfEven_of_dvd (by positivity) h, unitsOf_add hlt.le hle,
    Nat.div_mul_cancel h]

theorem log2_mul_pow_le {q : ℕ} (hq : q < 2 ^ 53) (shift : ℕ) :
    (q * 2 ^ shift).log2 - 52 ≤ shift := by
  rcases Nat.eq_zero_or_pos q with rfl | hpos
  · simp
  · have hne : q * 2 ^ shift ≠ 0 := by positivity
    have hlt : q * 2 ^ shift < 2 ^ (53 + shift) := by
      rw [pow_add]
      exact Nat.mul_lt_mul_of_pos_right hq (by positivity)
    have := (Nat.log2_lt hne).mpr hlt
    omega

theorem unitsOf_rounded_mul {q : ℕ} (hq : q < 2 ^ 53) (shift : ℕ) :
    unitsOf (rounded (q * 2 ^ shift)) = q * 2 ^ shift :=
  unitsOf_rounded ((Nat.pow_dvd_pow 2 (log2_mul_pow_le hq shift)).trans (Nat.dvd_mul_left _ _))

theorem rounded_unitsOf (m : ℕ) : rounded (unitsOf m) = m := by
  obtain ⟨shift, q, rfl, hq, h⟩ := exists_shift m
  apply strictMono_unitsOf.injective
  rw [unitsOf_add hq.le h]
  exact unitsOf_rounded_mul hq shift

theorem monotone_rounded : Monotone rounded := by
  intro m n hmn
  have hlog : m.log2 - 52 ≤ n.log2 - 52 := by
    rcases Nat.eq_zero_or_pos m with rfl | hm
    · simp
    · have := (Nat.le_log2 (by omega)).mpr ((Nat.log2_self_le hm.ne').trans hmn)
      omega
  unfold rounded
  rcases hlog.lt_or_eq with hlt | heq
  -- a greater exponent outweighs all digits
  · have hm := (roundHalfEven_bounds m (2 ^ (m.log2 - 52))).2
    have hn := (roundHalfEven_bounds n (2 ^ (n.log2 - 52))).1
    have hm' := (shifted_bounds m).1
    have hn' := (shifted_bounds n).2
    have hshift : (m.log2 - 52 + 1) * binadeSize ≤ (n.log2 - 52) * binadeSize :=
      Nat.mul_le_mul_right _ hlt
    rw [Nat.succ_mul] at hshift
    omega
  · rw [heq]
    exact Nat.add_le_add_left (monotone_roundHalfEven _ hmn) _

theorem monotone_nearest : Monotone nearest := by
  intro m n hmn
  rw [nearest_eq, nearest_eq]
  exact min_le_min_left _ (monotone_rounded hmn)

theorem nearest_zero : nearest 0 = 0 := by decide

theorem nearest_unitsOf {m : ℕ} (h : m ≤ infiniteMagnitude) : nearest (unitsOf m) = m := by
  rw [nearest_eq, rounded_unitsOf, min_eq_right h]

/-! Numbers, their values and their places in the order of all numbers. -/

/-- The exact value of a finite number. -/
def value (x : Binary64) : ℚ := (if x.negative then -x.units else x.units : ℤ) / unitsPerOne

-- with the exponent behind a variable nothing tries to write the power out
theorem exists_unitsPerOne : ∃ k, k = 1074 ∧ unitsPerOne = 2 ^ k := by
  obtain ⟨k, hk⟩ : ∃ k, k = 1074 := ⟨_, rfl⟩
  refine ⟨k, hk, ?_⟩
  delta unitsPerOne
  rw [← hk, Nat.pow_eq]

theorem unitsPerOne_pos : 0 < unitsPerOne := by
  obtain ⟨k, -, hk⟩ := exists_unitsPerOne
  rw [hk]
  positivity

theorem value_eq (x : Binary64) : x.value = (mirror unitsOf x.place : ℤ) / unitsPerOne := by
  unfold value place units
  congr 2
  split <;> simp only [mirror_neg, mirror_natCast unitsOf_zero]

/-- The place of the number nearest to a whole number of units. -/
def nearestPlace (n : ℤ) : ℤ := mirror nearest n

theorem monotone_nearestPlace : Monotone nearestPlace :=
  monotone_mirror nearest_zero monotone_nearest

theorem nearestPlace_units {x : Binary64} (h : x.isFinite) :
    nearestPlace (mirror unitsOf x.place) = x.place := by
  have hle : x.magnitude.val ≤ infiniteMagnitude := (of_decide_eq_true h).le
  have hmagnitude : x.place.natAbs = x.magnitude := by
    unfold place
    split <;> simp
  rw [nearestPlace, mirror_mirror nearest_zero unitsOf_zero]
  apply mirror_eq_self
  rw [hmagnitude, Function.comp_apply, nearest_unitsOf hle]

theorem isNaN_of_isFinite {x : Binary64} (h : x.isFinite) : x.isNaN = false := by
  simp only [isFinite, isNaN, decide_eq_true_eq, decide_eq_false_iff_not] at h ⊢
  omega

theorem isNaN_ofInt (i : ℤ) : (ofInt i).isNaN = false := by
  have hle : (ofInt i).magnitude.val ≤ infiniteMagnitude := Nat.min_le_left _ _
  simp only [isNaN, decide_eq_false_iff_not]
  omega

theorem place_ofInt (i : ℤ) : (ofInt i).place = nearestPlace (i * unitsPerOne) := by
  have hmagnitude : (ofInt i).magnitude.val = nearest (i.natAbs * unitsPerOne) := rfl
  have hnegative : (ofInt i).negative = decide (i < 0) := rfl
  rw [place, hmagnitude, hnegative]
  obtain ⟨n, rfl | rfl⟩ := i.eq_nat_or_neg
  · have hn : ¬(n : ℤ) < 0 := by omega
    rw [nearestPlace, ← Nat.cast_mul, mirror_natCast nearest_zero, Int.natAbs_natCast]
    simp [hn]
  · rw [nearestPlace, neg_mul, mirror_neg, ← Nat.cast_mul, mirror_natCast nearest_zero,
      Int.natAbs_neg, Int.natAbs_natCast]
    rcases Nat.eq_zero_or_pos n with rfl | hpos
    · simp [nearest_zero]
    · simp [hpos]

theorem le_unitsOf_infinite : 2 ^ 53 * unitsPerOne ≤ unitsOf infiniteMagnitude := by
  obtain ⟨k, hk, hone⟩ := exists_unitsPerOne
  obtain ⟨j, hj⟩ : ∃ j, j = 2046 := ⟨_, rfl⟩
  have hsplit : infiniteMagnitude = j * binadeSize + binadeSize := by
    rw [hj]
    decide
  have hsize : binadeSize = 2 ^ 52 := by decide
  rw [hsplit, unitsOf_add (by omega) (.inr le_rfl), hsize, hone, ← pow_add, ← pow_add]
  exact Nat.pow_le_pow_right (by decide) (by omega)

/-- An integer up to `2 ^ 53` is a floating-point number. -/
theorem units_place_ofInt {i : ℤ} (h : i.natAbs ≤ 2 ^ 53) :
    mirror unitsOf (ofInt i).place = i * unitsPerOne := by
  have hexact : unitsOf (rounded (i.natAbs * unitsPerOne)) = i.natAbs * unitsPerOne := by
    obtain ⟨k, -, hone⟩ := exists_unitsPerOne
    rw [hone]
    rcases h.lt_or_eq with hlt | heq
    · exact unitsOf_rounded_mul hlt k
    · rw [heq, show 2 ^ 53 * 2 ^ k = 2 ^ 52 * 2 ^ (k + 1) by ring]
      exact unitsOf_rounded_mul (by decide) (k + 1)
  have hle : rounded (i.natAbs * unitsPerOne) ≤ infiniteMagnitude := by
    have hmul := (Nat.mul_le_mul_right unitsPerOne h).trans le_unitsOf_infinite
    exact (monotone_rounded hmul).trans_eq (rounded_unitsOf _)
  rw [place_ofInt, nearestPlace, mirror_mirror unitsOf_zero nearest_zero]
  apply mirror_eq_self
  rw [Int.natAbs_mul, Int.natAbs_natCast, Function.comp_apply, nearest_eq, min_eq_right hle, hexact]

/-- How many units the number nearest to a whole number of units stands for. -/
def nearestUnits (n : ℤ) : ℤ := mirror unitsOf (nearestPlace n)

theorem monotone_nearestUnits : Monotone nearestUnits :=
  (strictMono_mirror unitsOf_zero strictMono_unitsOf).monotone.comp monotone_nearestPlace

theorem nearestUnits_units {x : Binary64} (h : x.isFinite) :
    nearestUnits (mirror unitsOf x.place) = mirror unitsOf x.place := by
  rw [nearestUnits, nearestPlace_units h]

theorem nearestUnits_mul {i : ℤ} (h : i.natAbs ≤ 2 ^ 53) :
    nearestUnits (i * unitsPerOne) = i * unitsPerOne := by
  rw [nearestUnits, ← place_ofInt, units_place_ofInt h]

theorem value_ofInt {i : ℤ} (h : i.natAbs ≤ 2 ^ 53) : (ofInt i).value = i := by
  have hone : (unitsPerOne : ℚ) ≠ 0 := by exact_mod_cast unitsPerOne_pos.ne'
  rw [value_eq, units_place_ofInt h, Int.cast_mul, Int.cast_natCast, mul_div_cancel_right₀ _ hone]

end RecordQuery.Binary64
