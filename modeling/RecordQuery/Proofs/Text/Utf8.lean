import Mathlib
import RecordQuery.Text.Utf8

/-!
# UTF-8 reads back

The bytes of every character are read as that character, whatever bytes follow.
-/
namespace RecordQuery.Text.Utf8

theorem toNat_ofNat {n : Nat} (h : n < 256) : (UInt8.ofNat n).toNat = n := by
  simp [Nat.mod_eq_of_lt h]

/-- Characters have no surrogates. -/
theorem isScalar (c : Char) : c.toNat < 0xD800 ∨ 0xDFFF < c.toNat ∧ c.toNat < 0x110000 := by
  have := c.valid
  simpa [UInt32.isValidChar, Nat.isValidChar] using this

/-- A byte that continues a character and does not end it. -/
theorem decodeFrom_continue {p : Pending} {n : Nat} (hl : p.low ≤ n) (hh : n ≤ p.high)
    (hn : n < 256) (hm : 1 < p.missing) (rest : List UInt8) :
    decodeFrom (some p) (UInt8.ofNat n :: rest) =
      decodeFrom (some ⟨64 * p.payload + n % 64, p.missing - 1, 0x80, 0xBF⟩) rest := by
  rw [decodeFrom, toNat_ofNat hn, if_pos ⟨hl, hh⟩]
  simp only [if_neg (Nat.not_le.mpr hm)]

/-- A byte that ends a character. -/
theorem decodeFrom_end {p : Pending} {n : Nat} (hl : p.low ≤ n) (hh : n ≤ p.high)
    (hn : n < 256) (hm : p.missing ≤ 1) (rest : List UInt8) :
    decodeFrom (some p) (UInt8.ofNat n :: rest) =
      some (Char.ofNat (64 * p.payload + n % 64)) :: decodeFrom none rest := by
  rw [decodeFrom, toNat_ofNat hn, if_pos ⟨hl, hh⟩]
  simp only [if_pos hm]

/-- A byte that starts a character of several bytes. -/
theorem decodeFrom_start {b : UInt8} {payload k low high : Nat}
    (h : lead b = some (payload, k + 1, low, high)) (rest : List UInt8) :
    decodeFrom none (b :: rest) = decodeFrom (some ⟨payload, k + 1, low, high⟩) rest := by
  rw [decodeFrom, start, h]

theorem lead_two {m : Nat} (hl : 2 ≤ m) (hh : m < 32) :
    lead (UInt8.ofNat (0xC0 + m)) = some (m, 1, 0x80, 0xBF) := by
  have hall : ∀ m < 32, m < 2 ∨
      lead (UInt8.ofNat (0xC0 + m)) = some (m, 1, 0x80, 0xBF) := by decide
  exact (hall m hh).resolve_left (by omega)

/-- Neither overlong spellings nor surrogates are announced. -/
theorem lead_three : ∀ m < 16, lead (UInt8.ofNat (0xE0 + m)) =
    some (m, 2, if m = 0 then 0xA0 else 0x80, if m = 13 then 0x9F else 0xBF) := by decide

theorem lead_four : ∀ m < 5, lead (UInt8.ofNat (0xF0 + m)) =
    some (m, 3, if m = 0 then 0x90 else 0x80, if m = 4 then 0x8F else 0xBF) := by decide

theorem decodeFrom_encodeChar (c : Char) (rest : List UInt8) :
    decodeFrom none (encodeChar c ++ rest) = some c :: decodeFrom none rest := by
  have hscalar := isScalar c
  have hc : Char.ofNat c.toNat = c := Char.ofNat_toNat c
  generalize hn : c.toNat = n at hscalar hc
  unfold encodeChar
  simp only [hn]
  by_cases h1 : n < 0x80
  · simp only [h1, if_true, List.cons_append, List.nil_append, decodeFrom, start, lead]
    rw [toNat_ofNat (by omega), if_pos h1]
    simp [hc]
  by_cases h2 : n < 0x800
  · simp only [h1, h2, if_true, if_false, Nat.div_one, List.cons_append, List.nil_append]
    rw [decodeFrom_start (lead_two (m := n / 0x40) (by omega) (by omega)),
      decodeFrom_end (by dsimp only; omega) (by dsimp only; omega) (by omega) (by simp)]
    rw [← hc]
    congr 3
    dsimp only
    omega
  by_cases h3 : n < 0x10000
  · simp only [h1, h2, h3, if_true, if_false, Nat.div_one, List.cons_append, List.nil_append]
    rw [decodeFrom_start (lead_three (n / 0x1000) (by omega)),
      decodeFrom_continue (by dsimp only; split <;> omega) (by dsimp only; split <;> omega)
        (by omega) (by simp),
      decodeFrom_end (by dsimp only; omega) (by dsimp only; omega) (by omega) (by simp)]
    rw [← hc]
    congr 3
    dsimp only
    omega
  · simp only [h1, h2, h3, if_false, Nat.div_one, List.cons_append, List.nil_append]
    rw [decodeFrom_start (lead_four (n / 0x40000) (by omega)),
      decodeFrom_continue (by dsimp only; split <;> omega) (by dsimp only; split <;> omega)
        (by omega) (by simp),
      decodeFrom_continue (by dsimp only; omega) (by dsimp only; omega) (by omega) (by simp),
      decodeFrom_end (by dsimp only; omega) (by dsimp only; omega) (by omega) (by simp)]
    rw [← hc]
    congr 3
    dsimp only
    omega

theorem decode_encode (text : List Char) : decode (encode text) = text.map some := by
  unfold decode
  induction text with
  | nil => rfl
  | cons c text ih =>
    rw [encode, List.flatMap_cons, decodeFrom_encodeChar, ← encode, ih, List.map_cons]

theorem decode?_encode (text : List Char) : decode? (encode text) = some text := by
  rw [decode?, decode_encode]
  induction text with
  | nil => rfl
  | cons c text ih => simp [ih]

end RecordQuery.Text.Utf8
