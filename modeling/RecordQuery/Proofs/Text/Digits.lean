import Mathlib
import RecordQuery.Text.Digits

/-!
# Numerals denote their numbers

Every numeral is made of digits and has the value of the number it was written for, with or
without zeros in front; so the numerals of different numbers differ.
-/
namespace RecordQuery.Text.Digits

/-- The numeral is the one that integers are shown with. -/
theorem toList_toString (i : Int) : (toString i).toList = ofInt i := by
  cases i with
  | ofNat n =>
    change n.repr.toList = ofNat n
    simp [Nat.repr, ofNat]
  | negSucc n =>
    change ("-" ++ (n + 1).repr).toList = '-' :: ofNat (n + 1)
    simp [Nat.repr, ofNat]

theorem isDigit_of_mem_ofNat {n : Nat} {c : Char} (h : c ∈ ofNat n) : c.isDigit :=
  Nat.isDigit_of_mem_toDigits (by decide) (by decide) h

theorem isDigit_of_mem_padded {width n : Nat} {c : Char} (h : c ∈ padded width n) : c.isDigit := by
  rcases List.mem_append.mp h with h | h
  · rw [List.eq_of_mem_replicate h]
    decide
  · exact isDigit_of_mem_ofNat h

theorem ofNat_ne_nil (n : Nat) : ofNat n ≠ [] := Nat.toDigits_ne_nil

theorem padded_ne_nil (width n : Nat) : padded width n ≠ [] :=
  List.append_ne_nil_of_right_ne_nil _ (ofNat_ne_nil n)

theorem value_eq_ofDigitChars (ds : List Char) : value ds = Nat.ofDigitChars 10 ds 0 := by
  rw [Nat.ofDigitChars_eq_foldl]
  rfl

@[simp] theorem value_ofNat (n : Nat) : value (ofNat n) = n := by
  rw [value_eq_ofDigitChars, ofNat, Nat.ofDigitChars_ten_toDigits]

@[simp] theorem value_padded (width n : Nat) : value (padded width n) = n := by
  rw [value_eq_ofDigitChars, padded, Nat.ofDigitChars_append, Nat.ofDigitChars_replicate_zero,
    Nat.mul_zero, ofNat, Nat.ofDigitChars_ten_toDigits]

theorem value_append_zeros (ds : List Char) (k : Nat) :
    value (ds ++ List.replicate k '0') = value ds * 10 ^ k := by
  rw [value_eq_ofDigitChars, value_eq_ofDigitChars, Nat.ofDigitChars_append,
    Nat.ofDigitChars_replicate_zero, Nat.mul_comm]

theorem value_zeros_append (k : Nat) (ds : List Char) :
    value (List.replicate k '0' ++ ds) = value ds := by
  rw [value_eq_ofDigitChars, value_eq_ofDigitChars, Nat.ofDigitChars_append,
    Nat.ofDigitChars_replicate_zero, Nat.mul_zero]

theorem ofNat_injective : Function.Injective ofNat := Function.LeftInverse.injective value_ofNat

theorem padded_injective (width : Nat) : Function.Injective (padded width) :=
  Function.LeftInverse.injective (value_padded width)

theorem head?_ofNat_ne_minus (n : Nat) : (ofNat n).head? ≠ some '-' := by
  intro h
  have := isDigit_of_mem_ofNat (List.mem_of_mem_head? h)
  exact absurd this (by decide)

theorem ofInt_injective : Function.Injective ofInt := by
  intro i j h
  cases i with
  | ofNat m =>
    cases j with
    | ofNat n => rw [ofNat_injective h]
    | negSucc n =>
      have : ofNat m = '-' :: ofNat (n + 1) := h
      exact absurd (by rw [this]; rfl) (head?_ofNat_ne_minus m)
  | negSucc m =>
    cases j with
    | ofNat n =>
      have : '-' :: ofNat (m + 1) = ofNat n := h
      exact absurd (by rw [← this]; rfl) (head?_ofNat_ne_minus n)
    | negSucc n =>
      have : ofNat (m + 1) = ofNat (n + 1) := (List.cons.inj h).2
      rw [Nat.succ.inj (ofNat_injective this)]

theorem length_padded {width n : Nat} (hw : 0 < width) (h : n < 10 ^ width) :
    (padded width n).length = width := by
  have := (Nat.length_toDigits_le_iff (b := 10) (by decide) hw).mpr h
  simp only [padded, List.length_append, List.length_replicate, ofNat]
  omega

/-- Fields of one width that are wide enough end at the same place. -/
theorem padded_append_inj {width m n : Nat} (hw : 0 < width) (hm : m < 10 ^ width)
    (hn : n < 10 ^ width) {rest rest' : List Char}
    (h : padded width m ++ rest = padded width n ++ rest') : m = n ∧ rest = rest' := by
  have hlength : (padded width m).length = (padded width n).length := by
    rw [length_padded hw hm, length_padded hw hn]
  obtain ⟨hfield, hrest⟩ := List.append_inj h hlength
  exact ⟨padded_injective width hfield, hrest⟩

end RecordQuery.Text.Digits
