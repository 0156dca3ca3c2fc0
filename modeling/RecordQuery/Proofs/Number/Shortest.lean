import RecordQuery.Number.Notation
import RecordQuery.Proofs.Number.Rounding

/-!
# Decimals and the numbers they are read as

What a decimal is read as depends on its value only, not on how many zeros its digits end in. The
shortest decimal of a finite number is read as that number, and what an integer is read as is a
whole number.
-/
namespace RecordQuery

namespace Binary64

variable {k : ℕ}

/-! ## Quotients -/

theorem roundHalfEven_mul (hk : 0 < k) (n d : ℕ) :
    roundHalfEven (k * n) (k * d) = roundHalfEven n d := by
  have hleft : 2 * (k * (n % d)) < k * d ↔ 2 * (n % d) < d := by
    rw [Nat.mul_left_comm, Nat.mul_lt_mul_left hk]
  have hright : k * d < 2 * (k * (n % d)) ↔ d < 2 * (n % d) := by
    rw [Nat.mul_left_comm, Nat.mul_lt_mul_left hk]
  simp only [roundHalfEven, Nat.mul_div_mul_left _ _ hk, Nat.mul_mod_mul_left, hleft, hright]

theorem nearestMagnitude_mul (hk : 0 < k) (n d : ℕ) :
    nearestMagnitude (k * n) (k * d) = nearestMagnitude n d := by
  simp only [nearestMagnitude, Nat.mul_div_mul_left _ _ hk, Nat.mul_assoc, roundHalfEven_mul hk]

theorem ofUnits_mul (hk : 0 < k) (negative : Bool) (n d : ℕ) :
    ofUnits negative (k * n) (k * d) = ofUnits negative n d := by
  simp only [ofUnits, nearestMagnitude_mul hk]

theorem ofRatio_mul (hk : 0 < k) (negative : Bool) (n d : ℕ) :
    ofRatio negative (k * n) (k * d) = ofRatio negative n d := by
  rw [ofRatio, Nat.mul_assoc, ofUnits_mul hk]
  rfl

/-- A finite number is as many units as it stands for. -/
theorem ofUnits_units {x : Binary64} (h : x.isFinite) : ofUnits x.negative x.units 1 = x := by
  have hle : x.magnitude.val ≤ infiniteMagnitude := (of_decide_eq_true h).le
  have hmagnitude : nearestMagnitude x.units 1 = x.magnitude.val := nearest_unitsOf hle
  simp only [ofUnits, hmagnitude]

end Binary64

namespace Decimal

variable (negative : Bool)

theorem nearest_of_nonneg {d : Decimal} (h : 0 ≤ d.exponent) :
    d.nearest negative = .ofRatio negative (d.digits * 10 ^ d.exponent.toNat) 1 := by
  rw [nearest, if_pos h, Nat.pow_eq]

theorem nearest_of_neg {d : Decimal} (h : ¬0 ≤ d.exponent) :
    d.nearest negative = .ofRatio negative d.digits (10 ^ (-d.exponent).toNat) := by
  rw [nearest, if_neg h, Nat.pow_eq]

/-- A zero at the end of the digits counts for the exponent. -/
theorem nearest_ten_mul (digits : ℕ) (exponent : ℤ) :
    (⟨10 * digits, exponent⟩ : Decimal).nearest negative =
      (⟨digits, exponent + 1⟩ : Decimal).nearest negative := by
  by_cases h : 0 ≤ exponent
  · have hpow : 10 ^ (exponent + 1).toNat = 10 * 10 ^ exponent.toNat := by
      rw [show (exponent + 1).toNat = exponent.toNat + 1 by omega, pow_succ, Nat.mul_comm]
    rw [nearest_of_nonneg _ h, nearest_of_nonneg _ (by simp only; omega)]
    dsimp only
    rw [hpow, Nat.mul_left_comm, Nat.mul_assoc]
  · have hpow : 10 ^ (-exponent).toNat = 10 * 10 ^ (-(exponent + 1)).toNat := by
      rw [show (-exponent).toNat = (-(exponent + 1)).toNat + 1 by omega, pow_succ, Nat.mul_comm]
    rw [nearest_of_neg _ h]
    dsimp only
    rw [hpow, Binary64.ofRatio_mul (by decide)]
    by_cases hlast : exponent = -1
    · subst hlast
      simp [nearest]
    · rw [nearest_of_neg _ (by simp only; omega)]

theorem nearest_trim (fuel : ℕ) (d : Decimal) :
    (d.trim fuel).nearest negative = d.nearest negative := by
  induction fuel generalizing d with
  | zero => rfl
  | succ fuel ih =>
    rw [trim]
    split
    · next h =>
      have hdigits : 10 * (d.digits / 10) = d.digits := by omega
      rw [ih, ← nearest_ten_mul, hdigits]
    · rfl

/-- The same number without a positive exponent. -/
def plain (d : Decimal) : Decimal :=
  if 0 ≤ d.exponent then ⟨d.digits * 10 ^ d.exponent.toNat, 0⟩ else d

theorem nearest_plain (d : Decimal) : d.plain.nearest negative = d.nearest negative := by
  unfold plain
  split
  · next h =>
    rw [nearest_of_nonneg _ h, nearest_of_nonneg _ le_rfl]
    simp
  · rfl

end Decimal

namespace Binary64

variable {x : Binary64} {tie : Tie} {d : Decimal}

/-! ## Shortest decimals -/

theorem nearest_of_onGrid? {drop : ℕ} (h : x.onGrid? tie drop = some d) :
    d.nearest x.negative = x := by
  simp only [onGrid?] at h
  split at h
  · next hbelow =>
    split at h
    · split at h
      · next habove =>
        rw [← Option.some.inj h]
        exact of_decide_eq_true habove
      · rw [← Option.some.inj h]
        exact of_decide_eq_true hbelow
    · rw [← Option.some.inj h]
      exact of_decide_eq_true hbelow
  · split at h
    · next habove =>
      rw [← Option.some.inj h]
      exact of_decide_eq_true habove
    · contradiction

theorem nearest_of_searchGrid {length count fuel : ℕ}
    (h : x.searchGrid tie length count fuel = some d) : d.nearest x.negative = x := by
  induction fuel generalizing count with
  | zero => contradiction
  | succ fuel ih =>
    rw [searchGrid] at h
    split at h
    · next hgrid => exact nearest_of_onGrid? (hgrid.trans h)
    · exact ih h

/-- All digits of a finite number. -/
theorem nearest_decimalUnits (h : x.isFinite) :
    (⟨x.decimalUnits, -1074⟩ : Decimal).nearest x.negative = x := by
  have hneg : ¬(0 : ℤ) ≤ -1074 := by decide
  -- with the exponent behind a variable nothing tries to write the powers out
  obtain ⟨k, hk, hone⟩ := exists_unitsPerOne
  have hexponent : (-(-1074) : ℤ).toNat = k := hk.symm
  have hunits : x.decimalUnits = x.units * 5 ^ k := by
    delta decimalUnits
    rw [← hk, Nat.pow_eq]
  have hpow : 10 ^ k = 5 ^ k * 2 ^ k * 1 := by rw [mul_one, ← Nat.mul_pow]
  rw [Decimal.nearest_of_neg _ hneg]
  dsimp only
  rw [hexponent, hunits, ofRatio, hone, hpow, Nat.mul_assoc, Nat.mul_comm,
    ofUnits_mul (by positivity), ofUnits_units h]

-- stated of the function itself, so that the search is never run to compare the two sides
theorem shortest_eq : shortest = fun x tie =>
    match x.searchGrid tie (Text.Digits.ofNat x.decimalUnits).length 1 17 with
    | some d => d.trim 17
    | none => ⟨x.decimalUnits, -1074⟩ := by
  delta shortest
  rfl

theorem nearest_shortest (h : x.isFinite) (tie : Tie) :
    (x.shortest tie).nearest x.negative = x := by
  cases hgrid : x.searchGrid tie (Text.Digits.ofNat x.decimalUnits).length 1 17 with
  | none =>
    simp only [shortest_eq, hgrid]
    exact nearest_decimalUnits h
  | some d =>
    simp only [shortest_eq, hgrid]
    rw [Decimal.nearest_trim, nearest_of_searchGrid hgrid]

/-- The decimal that is written for a number. -/
def decimal (x : Binary64) : Decimal := if x.isZero then ⟨0, 0⟩ else x.shortest .up

theorem nearest_decimal (h : x.isFinite) : x.decimal.nearest x.negative = x := by
  unfold decimal
  split
  · next hzero =>
    have hunits : x.units = 0 := by
      rw [units, of_decide_eq_true hzero, unitsOf_zero]
    have hx := ofUnits_units h
    rw [hunits] at hx
    rw [Decimal.nearest_of_nonneg _ le_rfl, Nat.zero_mul, ofRatio, Nat.zero_mul, hx]
  · exact nearest_shortest h .up

/-! ## Whole numbers -/

theorem unitsOf_rounded_eq (n : ℕ) :
    unitsOf (rounded n) = roundHalfEven n (2 ^ (n.log2 - 52)) * 2 ^ (n.log2 - 52) := by
  obtain ⟨hlt, hle⟩ := shifted_bounds n
  obtain ⟨hlow, hhigh⟩ := roundHalfEven_bounds n (2 ^ (n.log2 - 52))
  exact unitsOf_add (by omega) (by omega)

theorem isWhole_ofRatio (negative : Bool) (n : ℕ) (h : (ofRatio negative n 1).isFinite) :
    (ofRatio negative n 1).isWhole := by
  obtain ⟨k, -, hone⟩ := exists_unitsPerOne
  have hlt : nearest (n * unitsPerOne) < infiniteMagnitude := of_decide_eq_true h
  have hunits : (ofRatio negative n 1).units = unitsOf (nearest (n * unitsPerOne)) := rfl
  rw [nearest_eq] at hlt hunits
  rw [min_eq_right (by omega)] at hunits
  have hdvd : 2 ^ k ∣ unitsOf (rounded (n * 2 ^ k)) := by
    rcases Nat.le_total ((n * 2 ^ k).log2 - 52) k with hle | hle
    · rw [unitsOf_rounded ((Nat.pow_dvd_pow 2 hle).trans (Nat.dvd_mul_left _ _))]
      exact Nat.dvd_mul_left _ _
    · rw [unitsOf_rounded_eq]
      exact (Nat.pow_dvd_pow 2 hle).trans (Nat.dvd_mul_left _ _)
  rw [isWhole, hunits, hone, decide_eq_true_eq]
  exact Nat.mod_eq_zero_of_dvd hdvd

end Binary64

end RecordQuery
