import RecordQuery.Proofs.Number.Shortest
import RecordQuery.Proofs.Text.Digits
import RecordQuery.Proofs.Text.Mark

/-!
# Positional notation read back

The digits and the point of a decimal in positional notation are read as that decimal, so the
spelling of a finite number determines the number, its sign apart.
-/
namespace RecordQuery

open Text.Digits

namespace Decimal

variable {d e : Decimal} {text ds es : List Char}

/-- Reads digits with at most one point among them. -/
def read? (text : List Char) : Option Decimal :=
  match span text with
  | (whole, []) => some ⟨value whole, 0⟩
  | (whole, mark :: fraction) =>
    if mark = '.' ∧ fraction.all Char.isDigit then
      some ⟨value (whole ++ fraction), -fraction.length⟩
    else none

theorem read?_digits (h : ∀ c ∈ ds, c.isDigit) : read? ds = some ⟨value ds, 0⟩ := by
  have hspan : span ds = (ds, []) := by
    rw [span, List.takeWhile_eq_self_iff.mpr h, List.dropWhile_eq_nil_iff.mpr h]
  rw [read?, hspan]

theorem read?_mark (h : ∀ c ∈ ds, c.isDigit) (rest : List Char) :
    read? (ds ++ '.' :: rest) =
      if rest.all Char.isDigit then some ⟨value (ds ++ rest), -rest.length⟩ else none := by
  have hpoint : Char.isDigit '.' = false := by decide
  have hspan : span (ds ++ '.' :: rest) = (ds, '.' :: rest) := by
    rw [span, Text.takeWhile_field h hpoint, Text.dropWhile_field h hpoint]
  rw [read?, hspan]
  simp

theorem read?_point (h : ∀ c ∈ ds, c.isDigit) (h' : ∀ c ∈ es, c.isDigit) :
    read? (ds ++ '.' :: es) = some ⟨value (ds ++ es), -es.length⟩ := by
  rw [read?_mark h, if_pos (List.all_eq_true.mpr h')]

theorem isDigit_zero : ∀ c ∈ ['0'], c.isDigit := by simp

theorem eq_of_read? (h : read? text = some d) :
    ((∀ c ∈ text, c.isDigit) ∧ d = ⟨value text, 0⟩) ∨
      ∃ ds es, (∀ c ∈ ds, c.isDigit) ∧ (∀ c ∈ es, c.isDigit) ∧ text = ds ++ '.' :: es := by
  have htext : text.takeWhile Char.isDigit ++ text.dropWhile Char.isDigit = text :=
    List.takeWhile_append_dropWhile
  have hwhole : ∀ c ∈ text.takeWhile Char.isDigit, c.isDigit := fun c => List.mem_takeWhile_imp
  rw [read?, span] at h
  split at h
  · next whole hspan =>
    obtain ⟨rfl, hrest⟩ := Prod.mk.inj hspan
    rw [hrest, List.append_nil] at htext
    rw [htext] at hwhole h
    exact .inl ⟨hwhole, (Option.some.inj h).symm⟩
  · next whole mark fraction hspan =>
    obtain ⟨rfl, hrest⟩ := Prod.mk.inj hspan
    split_ifs at h with hmark
    rw [hrest, hmark.1] at htext
    exact .inr ⟨_, fraction, hwhole, List.all_eq_true.mp hmark.2, htext.symm⟩

theorem isDigit_or_point_of_read? (h : read? text = some d) {c : Char} (hc : c ∈ text) :
    c.isDigit ∨ c = '.' := by
  obtain ⟨hdigits, -⟩ | ⟨ds, es, hds, hes, rfl⟩ := eq_of_read? h
  · exact .inl (hdigits c hc)
  · simp only [List.mem_append, List.mem_cons] at hc
    rcases hc with hc | hc | hc
    · exact .inl (hds c hc)
    · exact .inr hc
    · exact .inl (hes c hc)

/-- One more decimal place is read only if there is none before it. -/
theorem eq_of_read?_place (h : read? text = some d) (h' : read? (text ++ ['.', '0']) = some e) :
    d.exponent = 0 ∧ e = ⟨10 * d.digits, -1⟩ := by
  obtain ⟨hdigits, rfl⟩ | ⟨ds, es, hds, -, rfl⟩ := eq_of_read? h
  · have hvalue : value (text ++ ['0']) = 10 * value text := by
      simpa [Nat.mul_comm] using value_append_zeros text 1
    rw [read?_point hdigits isDigit_zero, hvalue] at h'
    exact ⟨rfl, (Option.some.inj h').symm⟩
  · have hpoint : ¬(es ++ ['.', '0']).all Char.isDigit := by
      simp [show Char.isDigit '.' = false by decide]
    rw [List.append_assoc, List.cons_append, read?_mark hds, if_neg hpoint] at h'
    contradiction

theorem ofNat_mul_pow {n : ℕ} (h : n ≠ 0) (k : ℕ) :
    ofNat (n * 10 ^ k) = ofNat n ++ List.replicate k '0' := by
  induction k with
  | zero => simp
  | succ k ih =>
    have hpos : 0 < n * 10 ^ k := by positivity
    have hzero := Nat.toDigits_append_toDigits (b := 10) (d := 0) (by decide) hpos (by decide)
    rw [List.replicate_succ', ← List.append_assoc, ← ih, pow_succ, ← Nat.mul_assoc, Nat.mul_comm,
      ofNat, ← Nat.add_zero (10 * _), ← hzero]
    rfl

/-- A decimal without places is written as its integer. -/
theorem positional_of_nonneg (h : 0 ≤ d.exponent) :
    d.positional = ofNat (d.digits * 10 ^ d.exponent.toNat) := by
  rw [positional, if_pos h]
  split
  · next hzero => rw [hzero, Nat.zero_mul]
  · next hne => exact (ofNat_mul_pow hne _).symm

theorem point_mem_positional (h : ¬0 ≤ d.exponent) : '.' ∈ d.positional := by
  rw [positional, if_neg h]
  dsimp only
  split <;> simp

theorem read?_positional (d : Decimal) : read? d.positional = some d.plain := by
  by_cases h : 0 ≤ d.exponent
  · rw [positional_of_nonneg h, read?_digits fun c => isDigit_of_mem_ofNat, value_ofNat, plain,
      if_pos h]
  · have hd : ∀ c ∈ ofNat d.digits, c.isDigit := fun c => isDigit_of_mem_ofNat
    have hplaces : -((-d.exponent).toNat : ℤ) = d.exponent := by omega
    rw [positional, if_neg h, plain, if_neg h]
    dsimp only
    split
    · next hlt =>
      rw [read?_point (fun c hc => hd c (List.mem_of_mem_take hc))
        (fun c hc => hd c (List.mem_of_mem_drop hc)), List.take_append_drop, value_ofNat,
        List.length_drop, Nat.sub_sub_self hlt.le, hplaces]
    · next hle =>
      have hlength : (padded (-d.exponent).toNat d.digits).length = (-d.exponent).toNat := by
        simp only [padded, List.length_append, List.length_replicate]
        omega
      have hvalue : value (['0'] ++ padded (-d.exponent).toNat d.digits) = d.digits := by
        rw [← List.replicate_one, value_zeros_append, value_padded]
      have hdigits : ∀ c ∈ padded (-d.exponent).toNat d.digits, c.isDigit :=
        fun c => isDigit_of_mem_padded
      have hread := read?_point isDigit_zero hdigits
      rw [hvalue, hlength, hplaces] at hread
      exact hread

theorem positional_inj_plain (h : d.positional = e.positional) : d.plain = e.plain := by
  have hread := read?_positional d
  rw [h, read?_positional] at hread
  exact (Option.some.inj hread).symm

end Decimal

namespace Binary64

variable {x y : Binary64} {d : Decimal}

/-- A whole number below `10 ^ 15`. -/
def isSmallWhole (x : Binary64) : Bool :=
  x.isWhole && decide (x.units < 1000000000000000 * unitsPerOne)

/-- The spelling of a finite number without its sign. -/
def unsignedText (x : Binary64) : List Char :=
  x.decimal.positional ++ if x.isSmallWhole then ['.', '0'] else []

theorem positional_eq (x : Binary64) : x.positional = x.signed x.decimal.positional := by
  unfold positional decimal
  split
  · rfl
  · rfl

theorem clauseText_of_isFinite (h : x.isFinite) : x.clauseText = x.signed x.unsignedText := by
  have hinfinite : x.isInfinite = false := by
    have hlt : x.magnitude.val < infiniteMagnitude := of_decide_eq_true h
    exact decide_eq_false hlt.ne
  have happend (text rest : List Char) : x.signed text ++ rest = x.signed (text ++ rest) := by
    unfold signed
    split <;> rfl
  rw [clauseText, isNaN_of_isFinite h, hinfinite, positional_eq, happend, unsignedText]
  change (if x.isSmallWhole then _ else _) = _
  split <;> simp

theorem nearest_of_read? (h : x.isFinite) (hd : Decimal.read? x.unsignedText = some d) :
    d.nearest x.negative = x := by
  have hplain := Decimal.read?_positional x.decimal
  have hnearest : x.decimal.plain.nearest x.negative = x := by
    rw [Decimal.nearest_plain, nearest_decimal h]
  unfold unsignedText at hd
  split at hd
  · obtain ⟨hexponent, rfl⟩ := Decimal.eq_of_read?_place hplain hd
    have hwhole : (⟨x.decimal.plain.digits, -1 + 1⟩ : Decimal) = x.decimal.plain := by
      rw [show (-1 : ℤ) + 1 = x.decimal.plain.exponent from hexponent.symm]
    rw [Decimal.nearest_ten_mul, hwhole, hnearest]
  · rw [List.append_nil, hplain] at hd
    exact Option.some.inj hd ▸ hnearest

theorem unsignedText_inj (hx : x.isFinite) (hy : y.isFinite) (hsign : x.negative = y.negative)
    (h : x.unsignedText = y.unsignedText) : x = y := by
  cases hread : Decimal.read? x.unsignedText with
  | some d =>
    have hnearest := nearest_of_read? hy (h ▸ hread)
    rw [← hsign, nearest_of_read? hx hread] at hnearest
    exact hnearest
  | none =>
    have hread' : Decimal.read? y.unsignedText = none := h ▸ hread
    -- only a decimal place behind another one is not read
    have hplace {z : Binary64} (hnone : Decimal.read? z.unsignedText = none) :
        z.unsignedText = z.decimal.positional ++ ['.', '0'] := by
      unfold unsignedText at hnone ⊢
      split at hnone
      · next hsmall => rw [if_pos hsmall]
      · rw [List.append_nil, Decimal.read?_positional] at hnone
        contradiction
    rw [hplace hread, hplace hread'] at h
    have hplain := Decimal.positional_inj_plain (List.append_cancel_right h)
    rw [← nearest_decimal hx, ← nearest_decimal hy, ← Decimal.nearest_plain, hplain, hsign,
      Decimal.nearest_plain]

end Binary64

end RecordQuery
