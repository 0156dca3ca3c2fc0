import RecordQuery.Evaluation.Evaluator
import RecordQuery.Proofs.Evaluation.Comparison
import RecordQuery.Proofs.Time.StoredText

/-!
# Timestamps

The spelling of an instant in a clause, if its year needs no sign, is a timestamp with fields of
fixed widths, and the strict reader finds the instant in it. A record that holds the timestamp is
found equal to the instant. The one exception is a leap second on the dot: a point follows its
seconds, but no fraction.
-/
namespace RecordQuery

namespace Time

open Text.Digits

/-- The fields of a timestamp in UTC as they are written. -/
structure Timestamp where
  year : List Char
  month : List Char
  day : List Char
  hour : List Char
  minute : List Char
  second : List Char
  /-- The digits behind the point; without digits there is no point. -/
  fraction : List Char

namespace Timestamp

def text (s : Timestamp) : List Char :=
  s.year ++ '-' :: (s.month ++ '-' :: (s.day ++ 'T' :: (s.hour ++ ':' :: (s.minute ++
    ':' :: (s.second ++ ((if s.fraction = [] then [] else '.' :: s.fraction) ++ ['Z']))))))

/-- So many digits. -/
def HasWidth (width : ℕ) (field : List Char) : Prop :=
  field.length = width ∧ ∀ c ∈ field, c.isDigit

/-- All fields but the fraction have their widths, and no zero ends the fraction. -/
structure IsStrict (s : Timestamp) : Prop where
  year : HasWidth 4 s.year
  month : HasWidth 2 s.month
  day : HasWidth 2 s.day
  hour : HasWidth 2 s.hour
  minute : HasWidth 2 s.minute
  second : HasWidth 2 s.second
  fraction : ∀ c ∈ s.fraction, c.isDigit
  trimmed : s.fraction.getLast? ≠ some '0'

theorem hasWidth_padded {width n : ℕ} (hwidth : 0 < width) (hn : n < 10 ^ width) :
    HasWidth width (padded width n) :=
  ⟨length_padded hwidth hn, fun _ => isDigit_of_mem_padded⟩

end Timestamp

namespace Instant

/-- The digits of a fraction in a clause. -/
def fractionDigits (n : ℕ) : List Char := trimZeros (padded 9 n)

section Fraction

variable {n : ℕ}

theorem isDigit_of_mem_fractionDigits {c : Char} (h : c ∈ fractionDigits n) : c.isDigit := by
  have hsubset : fractionDigits n ⊆ padded 9 n := fun c hc => by
    have hdigits := trimZeros_append_zeros (padded 9 n)
    rw [← hdigits]
    exact List.mem_append_left _ hc
  exact isDigit_of_mem_padded (hsubset h)

theorem fractionDigits_append_zeros (hn : n < 1000000000) :
    fractionDigits n ++ List.replicate (9 - (fractionDigits n).length) '0' = padded 9 n := by
  have hlength : (padded 9 n).length = 9 := length_padded (by decide) hn
  have hdigits := trimZeros_append_zeros (padded 9 n)
  rwa [hlength] at hdigits

theorem length_fractionDigits_le (hn : n < 1000000000) : (fractionDigits n).length ≤ 9 := by
  have hlength := congrArg List.length (fractionDigits_append_zeros hn)
  rw [length_padded (by decide) hn, List.length_append] at hlength
  omega

theorem value_fractionDigits (hn : n < 1000000000) :
    value (fractionDigits n) * 10 ^ (9 - (fractionDigits n).length) = n := by
  rw [← value_append_zeros, fractionDigits_append_zeros hn, value_padded]

theorem fractionDigits_eq_nil_iff (hn : n < 1000000000) : fractionDigits n = [] ↔ n = 0 := by
  constructor
  · intro h
    have hvalue := value_fractionDigits hn
    rw [h] at hvalue
    simpa [value] using hvalue.symm
  · rintro rfl
    decide

theorem getLast?_fractionDigits (n : ℕ) : (fractionDigits n).getLast? ≠ some '0' := by
  intro h
  obtain ⟨front, hfront⟩ := List.getLast?_eq_some_iff.mp h
  have hne : fractionDigits n ≠ [] := by simp [hfront]
  have hlast : ¬decide ((fractionDigits n).getLast hne = '0') :=
    List.rdropWhile_last_not (· = '0') (padded 9 n) hne
  simp [hfront] at hlast

/-- A fraction ends with the zone behind it. -/
theorem fraction?_fractionDigits (hn : n < 1000000000) (h : n ≠ 0) (rest : List Char) :
    fraction? ('.' :: (fractionDigits n ++ 'Z' :: rest)) = some (n, 'Z' :: rest) := by
  have hne : fractionDigits n ≠ [] := mt (fractionDigits_eq_nil_iff hn).mp h
  rw [fraction?_digits (fun c => isDigit_of_mem_fractionDigits) hne (length_fractionDigits_le hn)
    (by decide), value_fractionDigits hn]

end Fraction

/-! ## Instants -/

/-- What a clock in UTC shows at an instant, in digits. -/
def timestamp (t : Instant) : Timestamp where
  year := padded 4 t.date.year.toNat
  month := padded 2 t.date.month
  day := padded 2 t.date.day
  hour := padded 2 (t.second.val / 3600)
  minute := padded 2 (t.second.val / 60 % 60)
  second := padded 2 t.shownSecond
  fraction := fractionDigits (t.nanosecond.val % 1000000000)

/-- The instant is written without a sign in front of its year. -/
def IsUnsigned (t : Instant) : Prop := 0 ≤ t.date.year ∧ t.date.year ≤ 9999

/-- A leap second on the dot has nanoseconds and yet no fraction. -/
def IsLeapOnTheDot (t : Instant) : Prop := t.nanosecond.val = 1000000000

section Timestamps

variable {t : Instant}

theorem fraction_timestamp_eq_nil_iff :
    t.timestamp.fraction = [] ↔ t.nanosecond.val % 1000000000 = 0 :=
  fractionDigits_eq_nil_iff (Nat.mod_lt _ (by decide))

theorem isStrict_timestamp (hy : t.IsUnsigned) : t.timestamp.IsStrict := by
  have hs := t.second.isLt
  have hyear : t.date.year.toNat < 10 ^ 4 := by
    have := hy.2
    omega
  exact {
    year := Timestamp.hasWidth_padded (by decide) hyear
    month := Timestamp.hasWidth_padded (by decide) t.date.month_lt
    day := Timestamp.hasWidth_padded (by decide) t.date.day_lt
    hour := Timestamp.hasWidth_padded (by decide) (by omega)
    minute := Timestamp.hasWidth_padded (by decide) (by omega)
    second := Timestamp.hasWidth_padded (by decide) t.shownSecond_lt
    fraction := fun _ => isDigit_of_mem_fractionDigits
    trimmed := getLast?_fractionDigits _ }

theorem text_timestamp (hy : t.IsUnsigned) (hn : ¬t.IsLeapOnTheDot) :
    t.timestamp.text = t.clauseText := by
  have hyear : yearText t.date.year = padded 4 t.date.year.toNat := yearText_plain hy
  have hlt := t.nanosecond.isLt
  unfold IsLeapOnTheDot at hn
  unfold clauseText Timestamp.text
  by_cases hzero : t.nanosecond.val = 0
  · have hfraction : t.timestamp.fraction = [] :=
      fraction_timestamp_eq_nil_iff.mpr (by rw [hzero])
    rw [if_pos hzero, if_pos hfraction, secondsText_append, hyear]
    rfl
  · have hfraction : t.timestamp.fraction ≠ [] :=
      mt fraction_timestamp_eq_nil_iff.mp (by omega)
    rw [if_neg hzero, if_neg hfraction, List.append_assoc, secondsText_append, hyear]
    rfl

/-- The strict reader takes each field at its full width. -/
theorem readStrict?_timestamp (hy : t.IsUnsigned) :
    readStrict? t.timestamp.text = some t := by
  have hs := t.second.isLt
  have hyear : t.date.year.toNat < 10 ^ 4 := by
    have := hy.2
    omega
  have hdate : Date.of? (t.date.year.toNat : ℤ) t.date.month t.date.day = some t.date := by
    rw [Int.toNat_of_nonneg hy.1]
    exact Date.of?_eq_some_iff.mpr ⟨rfl, rfl, rfl⟩
  have hfraction : fraction? ((if t.timestamp.fraction = [] then [] else
      '.' :: t.timestamp.fraction) ++ ['Z']) =
        some (t.nanosecond.val % 1000000000, ['Z']) := by
    split
    · next hnil =>
      rw [fraction_timestamp_eq_nil_iff.mp hnil]
      rfl
    · next hne =>
      exact fraction?_fractionDigits (Nat.mod_lt _ (by decide))
        (mt fraction_timestamp_eq_nil_iff.mpr hne) []
  rw [readStrict?, Timestamp.text]
  refine Option.bind_eq_some_iff.mpr ⟨_, digits?_padded (by decide) le_rfl hyear _, ?_⟩
  refine Option.bind_eq_some_iff.mpr ⟨_, expect?_cons '-' _, ?_⟩
  refine Option.bind_eq_some_iff.mpr ⟨_, digits?_padded (by decide) le_rfl t.date.month_lt _, ?_⟩
  refine Option.bind_eq_some_iff.mpr ⟨_, expect?_cons '-' _, ?_⟩
  refine Option.bind_eq_some_iff.mpr ⟨_, digits?_padded (by decide) le_rfl t.date.day_lt _, ?_⟩
  refine Option.bind_eq_some_iff.mpr ⟨_, rfl, ?_⟩
  refine Option.bind_eq_some_iff.mpr ⟨_, digits?_padded (by decide) le_rfl (by omega) _, ?_⟩
  refine Option.bind_eq_some_iff.mpr ⟨_, expect?_cons ':' _, ?_⟩
  refine Option.bind_eq_some_iff.mpr ⟨_, digits?_padded (by decide) le_rfl (by omega) _, ?_⟩
  refine Option.bind_eq_some_iff.mpr ⟨_, expect?_cons ':' _, ?_⟩
  refine Option.bind_eq_some_iff.mpr ⟨_, digits?_padded (by decide) le_rfl t.shownSecond_lt _, ?_⟩
  refine Option.bind_eq_some_iff.mpr ⟨_, hfraction, ?_⟩
  refine Option.bind_eq_some_iff.mpr ⟨(0, []), rfl, ?_⟩
  refine Option.bind_eq_some_iff.mpr ⟨_, clock?_shown t, ?_⟩
  have hempty : ([] : List Char).isEmpty = true := rfl
  dsimp only
  rw [if_pos hempty]
  refine Option.bind_eq_some_iff.mpr ⟨_, hdate, ?_⟩
  exact ofLocal?_utc t

theorem readStrict?_clauseText (hy : t.IsUnsigned) (hn : ¬t.IsLeapOnTheDot) :
    readStrict? t.clauseText = some t := by
  rw [← text_timestamp hy hn, readStrict?_timestamp hy]

theorem compare_self (t : Instant) : t.compare t = .eq := by
  simp [compare, Date.compare]

end Timestamps

end Instant

end Time

/-- The comparisons that hold of equal operands. -/
def Comparison.admitsEqual : Comparison → Bool
  | .eq | .ge | .le => true
  | .ne | .gt | .lt => false

theorem Operand.compare_of_order?_eq {style : BooleanStyle} {a b : Operand}
    (h : order? style a b = some .eq) (op : Comparison) :
    compare style op a b = op.admitsEqual := by
  have hkinds : ¬(a.isStructured ∧ b.isStructured) := by
    rintro ⟨ha, hb⟩
    rw [order?_of_isStructured style a b ha hb] at h
    contradiction
  have hequal : equal style a b = true := by rw [equal_eq_order? style a b hkinds, h]; rfl
  cases op <;> simp [compare, Comparison.admitsEqual, hequal, h]

namespace Time.Instant

variable {t : Instant}

theorem order?_clauseText (style : BooleanStyle) (hy : t.IsUnsigned) (hn : ¬t.IsLeapOnTheDot) :
    Operand.order? style (.record (.string (String.ofList t.clauseText))) (.constant (.instant t)) =
      some .eq := by
  simp [Operand.order?, Operand.scalar, Scalar.order?, Scalar.readTime?,
    readStrict?_clauseText hy hn, compare_self]

/-- An instant whose year needs no sign is written in a clause as a timestamp, with a fraction
unless it is at a full second. A member of a record that holds the timestamp is equal to the instant
in every comparison. A leap second on the dot is excepted. -/
theorem timestamp_recognised (hy : t.IsUnsigned) (hn : ¬t.IsLeapOnTheDot) :
    (∃ s : Timestamp, s.IsStrict ∧ s.text = t.clauseText ∧
        (s.fraction ≠ [] ↔ t.nanosecond.val % 1000000000 ≠ 0)) ∧
      readStrict? t.clauseText = some t ∧
      ∀ style (p : Path) (record : Json),
        record.resolvePath? p = some (.string (String.ofList t.clauseText)) →
        ∀ op, (Predicate.compare op (.field p) (.literal (.instant t))).holds style record =
          .ok op.admitsEqual := by
  refine ⟨⟨t.timestamp, isStrict_timestamp hy, text_timestamp hy hn,
    not_congr fraction_timestamp_eq_nil_iff⟩, readStrict?_clauseText hy hn, ?_⟩
  intro style p record hvalue op
  have hcompare := Operand.compare_of_order?_eq (order?_clauseText style hy hn) op
  have hfield : Evaluation.operand record (.field p) =
      .ok (.record (.string (String.ofList t.clauseText))) := by
    rw [Evaluation.operand, hvalue]
    rfl
  rw [← hcompare, Predicate.holds, Evaluation.truth, hfield]
  rfl

/-- A quarter of the way through a leap second. -/
theorem timestamp_recognised_leap :
    let t : Instant := ⟨⟨2016, 12, 31, by decide⟩, ⟨86399, by decide⟩, ⟨1250000000, by decide⟩,
      by decide⟩
    let record : Json := .object [("At", .string "2016-12-31T23:59:60.25Z")]
    t.IsUnsigned ∧ ¬t.IsLeapOnTheDot ∧ t.clauseText = "2016-12-31T23:59:60.25Z".toList ∧
      (Predicate.compare .ge (.field ⟨["At"]⟩) (.literal (.instant t))).holds .native record =
        .ok true := by
  intro t record
  have hy : t.IsUnsigned := ⟨by decide, by decide⟩
  have hn : ¬t.IsLeapOnTheDot := by
    unfold IsLeapOnTheDot
    decide
  have htext : t.clauseText = "2016-12-31T23:59:60.25Z".toList := by decide
  have hvalue : record.resolvePath? ⟨["At"]⟩ = some (.string (String.ofList t.clauseText)) := by
    rw [htext]
    rfl
  exact ⟨hy, hn, htext, (timestamp_recognised hy hn).2.2 .native ⟨["At"]⟩ record hvalue .ge⟩

/-- The timestamp of a leap second on the dot has a point without a fraction, and the strict reader
refuses it; so it is not found equal to the instant, nor before or behind it. -/
theorem leap_on_the_dot_unrecognised :
    let t : Instant := ⟨⟨2016, 12, 31, by decide⟩, ⟨86399, by decide⟩, ⟨1000000000, by decide⟩,
      by decide⟩
    let record : Json := .object [("At", .string "2016-12-31T23:59:60.Z")]
    t.IsUnsigned ∧ t.clauseText = "2016-12-31T23:59:60.Z".toList ∧
      readStrict? t.clauseText = none ∧
      (Predicate.compare .eq (.field ⟨["At"]⟩) (.literal (.instant t))).holds .native record =
        .ok false ∧
      (Predicate.compare .ge (.field ⟨["At"]⟩) (.literal (.instant t))).holds .native record =
        .ok false := by
  intro t record
  refine ⟨⟨by decide, by decide⟩, by decide, by decide, ?_, ?_⟩ <;> decide +kernel

end Time.Instant

end RecordQuery
