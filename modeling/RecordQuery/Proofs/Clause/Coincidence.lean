import RecordQuery.Proofs.Clause.Constant
import RecordQuery.Proofs.Number.Notation

/-!
# Constants written alike

Where booleans are written bare, two constants have one text only if they are the same or if one
is an integer and the other a real number so large that it is written without a decimal place: the
integer is then the shortest decimal of the real number.
-/
namespace RecordQuery

open Text.Digits

namespace Binary64

variable {x y : Binary64} {a b : List Char}

/-- A real number that is written as the integer is: it is so large that no decimal place is
written, and the integer is its shortest decimal. -/
structure IsWrittenAs (x : Binary64) (i : ℤ) : Prop where
  finite : x.isFinite
  large : 10 ^ 15 ≤ |x.value|
  nearest : x = .ofInt i
  whole : 0 ≤ x.decimal.exponent
  shortest : i.natAbs = x.decimal.digits * 10 ^ x.decimal.exponent.toNat

/-! ## Signs -/

theorem signed_inj (ha : Clause.IsUnsigned a) (hb : Clause.IsUnsigned b)
    (h : x.signed a = y.signed b) : x.negative = y.negative ∧ a = b := by
  have hminus {c : List Char} (hc : Clause.IsUnsigned ('-' :: c)) : False :=
    absurd hc.1 (by simp [show Char.isDigit '-' = false by decide])
  unfold signed at h
  cases hx : x.negative with
  | false =>
    cases hy : y.negative with
    | false => simpa [hx, hy] using h
    | true =>
      simp only [hx, hy, Bool.false_eq_true, if_false, if_true] at h
      exact (hminus (h ▸ ha)).elim
  | true =>
    cases hy : y.negative with
    | false =>
      simp only [hx, hy, Bool.false_eq_true, if_false, if_true] at h
      exact (hminus (h ▸ hb)).elim
    | true => simpa [hx, hy] using h

theorem isUnsigned_unsignedText (x : Binary64) : Clause.IsUnsigned x.unsignedText := by
  refine (Clause.isUnsigned_positional _).append ?_
  split
  · exact Clause.isWord_of_all (by decide)
  · exact Clause.isWord_nil

theorem ofInt_eq_signed (i : ℤ) : Text.Digits.ofInt i = (ofInt i).signed (ofNat i.natAbs) := by
  have hnegative : (ofInt i).negative = decide (i < 0) := rfl
  rw [signed, hnegative]
  cases i with
  | ofNat n => rfl
  | negSucc n =>
    rw [decide_eq_true (Int.negSucc_lt_zero n), if_pos rfl]
    rfl

/-! ## Two real numbers -/

/-- What is not finite is written as a word. -/
theorem clauseText_of_not_isFinite (h : x.isFinite = false) :
    x.isNaN ∧ x.clauseText = "NaN".toList ∨
      x = infinity x.negative ∧
        x.clauseText = if x.negative then "-INF".toList else "INF".toList := by
  have hle : ¬x.magnitude.val < infiniteMagnitude := of_decide_eq_false h
  cases hnan : x.isNaN with
  | true => exact .inl ⟨rfl, by rw [clauseText, hnan, if_pos rfl]⟩
  | false =>
    have hlt : ¬infiniteMagnitude < x.magnitude.val := of_decide_eq_false hnan
    have hmagnitude : x.magnitude.val = infiniteMagnitude := by omega
    have hinfinite : x.isInfinite := decide_eq_true hmagnitude
    have hx : x = infinity x.negative := by
      rw [infinity, Binary64.mk.injEq]
      exact ⟨rfl, Fin.ext hmagnitude⟩
    exact .inr ⟨hx, by rw [clauseText, hnan, if_neg (by decide), if_pos hinfinite]⟩

theorem startsNumber_clauseText : Clause.startsNumber x.clauseText = x.isFinite := by
  cases h : x.isFinite with
  | true =>
    rw [clauseText_of_isFinite h]
    exact (Clause.isNumeric_signed x (isUnsigned_unsignedText x)).1
  | false =>
    obtain ⟨-, htext⟩ | ⟨-, htext⟩ := clauseText_of_not_isFinite h
    · rw [htext]
      decide
    · rw [htext]
      split <;> decide

theorem clauseText_inj (h : x.clauseText = y.clauseText) : x = y ∨ x.isNaN ∧ y.isNaN := by
  have hfinite : x.isFinite = y.isFinite := by
    rw [← startsNumber_clauseText, h, startsNumber_clauseText]
  cases hx : x.isFinite with
  | true =>
    have hy : y.isFinite := hfinite ▸ hx
    rw [clauseText_of_isFinite hx, clauseText_of_isFinite hy] at h
    obtain ⟨hsign, htext⟩ := signed_inj (isUnsigned_unsignedText x) (isUnsigned_unsignedText y) h
    exact .inl (unsignedText_inj hx hy hsign htext)
  | false =>
    have hy : y.isFinite = false := hfinite ▸ hx
    obtain ⟨hxn, hxt⟩ | ⟨hxi, hxt⟩ := clauseText_of_not_isFinite hx
    · obtain ⟨hyn, hyt⟩ | ⟨-, hyt⟩ := clauseText_of_not_isFinite hy
      · exact .inr ⟨hxn, hyn⟩
      · rw [hxt, hyt] at h
        cases hsign : y.negative <;> simp [hsign] at h
    · obtain ⟨-, hyt⟩ | ⟨hyi, hyt⟩ := clauseText_of_not_isFinite hy
      · rw [hxt, hyt] at h
        cases hsign : x.negative <;> simp [hsign] at h
      · rw [hxt, hyt] at h
        have hsign : x.negative = y.negative := by
          cases hxs : x.negative <;> cases hys : y.negative <;> simp [hxs, hys] at h ⊢
        rw [hxi, hyi, hsign]
        exact .inl rfl

/-! ## A real number and an integer -/

theorem abs_value (x : Binary64) : |x.value| = (x.units : ℚ) / unitsPerOne := by
  unfold value
  generalize unitsPerOne = one
  split <;> simp [abs_div]

theorem large_iff : 10 ^ 15 ≤ |x.value| ↔ 1000000000000000 * unitsPerOne ≤ x.units := by
  have hcast (one units : ℕ) :
      (10 : ℚ) ^ 15 * one ≤ units ↔ 1000000000000000 * one ≤ units := by norm_cast
  have hone : (0 : ℚ) < unitsPerOne := by exact_mod_cast unitsPerOne_pos
  rw [abs_value, le_div_iff₀ hone]
  exact hcast _ _

theorem unsignedText_of_large (h : 10 ^ 15 ≤ |x.value|) :
    x.unsignedText = x.decimal.positional := by
  have hsmall : x.isSmallWhole = false := by
    rw [isSmallWhole, decide_eq_false (not_lt.mpr (large_iff.mp h)), Bool.and_false]
  rw [unsignedText, hsmall, if_neg (by decide), List.append_nil]

theorem IsWrittenAs.clauseText_eq {i : ℤ} (h : x.IsWrittenAs i) :
    x.clauseText = Text.Digits.ofInt i := by
  rw [clauseText_of_isFinite h.finite, unsignedText_of_large h.large,
    Decimal.positional_of_nonneg h.whole, ← h.shortest, ofInt_eq_signed, ← h.nearest]

theorem isWrittenAs_of_clauseText_eq {i : ℤ} (h : x.clauseText = Text.Digits.ofInt i) :
    x.IsWrittenAs i := by
  have hpoint : '.' ∉ ofNat i.natAbs := fun hc => absurd (isDigit_of_mem_ofNat hc) (by decide)
  have hx : x.isFinite := by
    rw [← startsNumber_clauseText, h]
    exact (Clause.isNumeric_ofInt i).1
  rw [clauseText_of_isFinite hx, ofInt_eq_signed] at h
  obtain ⟨hsign, htext⟩ := signed_inj (isUnsigned_unsignedText x) (Clause.isUnsigned_ofNat _) h
  have hsmall : x.isSmallWhole = false := by
    by_contra hs
    refine hpoint ?_
    rw [← htext, unsignedText, if_pos (by simpa using hs)]
    simp
  -- the text is read as the integer, and the real number is what is read
  have hread : Decimal.read? x.unsignedText = some ⟨i.natAbs, 0⟩ := by
    rw [htext, Decimal.read?_digits fun c => isDigit_of_mem_ofNat, value_ofNat]
  have hnearest : x = ofInt i := by
    have hd := nearest_of_read? hx hread
    rw [Decimal.nearest_of_nonneg _ le_rfl, hsign] at hd
    rw [← hd]
    simp [ofInt]
    rfl
  have hwhole : x.isWhole := by
    rw [hnearest] at hx ⊢
    exact isWhole_ofRatio _ _ hx
  rw [unsignedText, hsmall, if_neg (by decide), List.append_nil] at htext
  have hexponent : 0 ≤ x.decimal.exponent := by
    by_contra hneg
    exact hpoint (htext ▸ Decimal.point_mem_positional hneg)
  rw [Decimal.positional_of_nonneg hexponent] at htext
  refine ⟨hx, large_iff.mpr ?_, hnearest, hexponent, (ofNat_injective htext).symm⟩
  rw [isSmallWhole, hwhole, Bool.true_and] at hsmall
  exact not_lt.mp (of_decide_eq_false hsmall)

theorem zone_not_mem_clauseText (x : Binary64) : 'Z' ∉ x.clauseText := by
  cases h : x.isFinite with
  | true =>
    have hpositional : 'Z' ∉ x.decimal.positional := fun hc =>
      absurd (Decimal.isDigit_or_point_of_read? (Decimal.read?_positional _) hc) (by decide)
    have hunsigned : 'Z' ∉ x.unsignedText := by
      unfold unsignedText
      split <;> simp [hpositional]
    rw [clauseText_of_isFinite h, signed]
    split <;> simp [hunsigned]
  | false =>
    obtain ⟨-, htext⟩ | ⟨-, htext⟩ := clauseText_of_not_isFinite h
    · rw [htext]
      decide
    · rw [htext]
      split <;> decide

end Binary64

/-- Constants that are written alike: the same, both no number, or a large real number and its
shortest decimal. -/
inductive Literal.IsWrittenLike : Literal → Literal → Prop
  | same (v : Literal) : IsWrittenLike v v
  | nan {x y : Binary64} : x.isNaN → y.isNaN → IsWrittenLike (.real x) (.real y)
  | real {x : Binary64} {i : ℤ} : x.IsWrittenAs i → IsWrittenLike (.real x) (.integer i)
  | integer {x : Binary64} {i : ℤ} : x.IsWrittenAs i → IsWrittenLike (.integer i) (.real x)

namespace Clause

variable {u v : Literal} {x : Binary64}

theorem spells_real (x : Binary64) : Spells x.clauseText [.word x.clauseText] := by
  obtain ⟨hbare, hword⟩ := isBareWord_real x
  refine spells_word hword fun hnil => ?_
  rw [hnil] at hbare
  exact absurd hbare (by decide)

/-- A word with a letter in front is the text of no real number unless it is one of three. -/
theorem clauseText_ne_word {word : List Char} (hstart : startsNumber word = false)
    (hword : word ≠ "NaN".toList ∧ word ≠ "INF".toList ∧ word ≠ "-INF".toList) :
    x.clauseText ≠ word := by
  rintro rfl
  rw [Binary64.startsNumber_clauseText] at hstart
  obtain ⟨-, htext⟩ | ⟨-, htext⟩ := Binary64.clauseText_of_not_isFinite hstart
  · exact hword.1 htext
  · split at htext
    · exact hword.2.2 htext
    · exact hword.2.1 htext

theorem isWrittenLike_real (hv : v.IsDotted) (h : x.clauseText = v.text .native) :
    (Literal.real x).IsWrittenLike v := by
  have htoken (hr : v.isReal = false) : Token.word x.clauseText = v.token .native := by
    have ht := tokens?_of_spells (spells_constant hv hr)
    rw [← h, tokens?_of_spells (spells_real x)] at ht
    exact (List.cons.inj (Option.some.inj ht)).1
  cases v with
  | string s => exact absurd (htoken rfl) (by simp [Literal.token])
  | member typeName label => exact absurd (htoken rfl) (by simp [Literal.token])
  | integer i => exact .real (Binary64.isWrittenAs_of_clauseText_eq h)
  | real y =>
    rcases Binary64.clauseText_inj h with rfl | ⟨hx, hy⟩
    · exact .same _
    · exact .nan hx hy
  | boolean b => cases b <;> exact absurd h (clauseText_ne_word (by decide) (by decide))
  | instant t => exact absurd (h ▸ zone_mem_instant t) x.zone_not_mem_clauseText
  | null => exact absurd h (clauseText_ne_word (by decide) (by decide))

end Clause

namespace Literal

variable {u v : Literal}

theorem IsWrittenLike.symm (h : u.IsWrittenLike v) : v.IsWrittenLike u := by
  cases h with
  | same => exact .same _
  | nan hx hy => exact .nan hy hx
  | real h => exact .integer h
  | integer h => exact .real h

theorem IsWrittenLike.text_eq (h : u.IsWrittenLike v) (style : BooleanStyle) :
    u.text style = v.text style := by
  cases h with
  | same => rfl
  | nan hx hy => simp only [text, Binary64.clauseText, hx, hy, if_true]
  | real h => exact h.clauseText_eq
  | integer h => exact h.clauseText_eq.symm

/-- Where booleans are written bare, the text of a constant determines it, but for a large real
number and the integer that is its shortest decimal. -/
theorem text_eq_iff (hu : u.IsDotted) (hv : v.IsDotted) :
    u.text .native = v.text .native ↔ u.IsWrittenLike v := by
  refine ⟨fun h => ?_, fun h => h.text_eq .native⟩
  cases hur : u.isReal with
  | true =>
    cases u with
    | real x => exact Clause.isWrittenLike_real hv h
    | _ => contradiction
  | false =>
    cases hvr : v.isReal with
    | true =>
      cases v with
      | real y => exact (Clause.isWrittenLike_real hu h.symm).symm
      | _ => contradiction
    | false =>
      rw [Clause.constantText_inj hu hv hur hvr h]
      exact .same v

/-- At `2 ^ 62` the integer of the same text is not the one of the same value. -/
theorem text_eq_iff_neighbours :
    (Literal.integer 4611686018427388000).IsWrittenLike (.real (.ofInt 4611686018427387904)) ∧
      ¬(Literal.integer 4611686018427387904).IsWrittenLike
        (.real (.ofInt 4611686018427387904)) := by
  have h (i : ℤ) := text_eq_iff (u := .integer i) (v := .real (.ofInt 4611686018427387904))
    trivial trivial
  exact ⟨(h _).mp (by decide +kernel), (h _).not.mp (by decide +kernel)⟩

theorem integer_text_shared :
    let u : Literal := .integer 1000000000000000
    let v : Literal := .real (.ofInt 1000000000000000)
    u.IsDotted ∧ v.IsDotted ∧ u ≠ v ∧ u.text .native = v.text .native := by
  decide +kernel

end Literal

end RecordQuery
