import RecordQuery.Proofs.Time.ClauseText
import RecordQuery.Time.Reader

/-!
# Instants in stored predicates

The spelling of an instant in a stored predicate is read as that instant: leap seconds, years that
need a sign and fractions of three, six or nine digits included.
-/
namespace RecordQuery.Time

open Text.Digits

variable {mark : Char}

theorem digits?_append {least most : Nat} {ds rest : List Char} (hleast : least ≤ ds.length)
    (h : ((ds ++ rest).take most).takeWhile Char.isDigit = ds) :
    digits? least most (ds ++ rest) = some (value ds, rest) := by
  unfold digits?
  simp only [h, List.drop_left]
  rw [if_neg (by omega)]

/-- A field that is full ends whatever follows it. -/
theorem digits?_padded {least width n : Nat} (hwidth : 0 < width) (hleast : least ≤ width)
    (hn : n < 10 ^ width) (rest : List Char) :
    digits? least width (padded width n ++ rest) = some (n, rest) := by
  have hlength := length_padded hwidth hn
  have htake : ((padded width n ++ rest).take width).takeWhile Char.isDigit = padded width n := by
    rw [List.take_left' hlength, List.takeWhile_eq_self_iff]
    exact fun c => isDigit_of_mem_padded
  rw [digits?_append (hleast.trans_eq hlength.symm) htake, value_padded]

/-- The hyphen behind a year that has a sign ends it. -/
theorem digits?_signed (n : Nat) (rest : List Char) :
    digits? 1 (padded 4 n ++ '-' :: rest).length (padded 4 n ++ '-' :: rest) =
      some (n, '-' :: rest) := by
  have hleast : 1 ≤ (padded 4 n).length := List.length_pos_iff.mpr (padded_ne_nil 4 n)
  have htake : ((padded 4 n ++ '-' :: rest).take (padded 4 n ++ '-' :: rest).length).takeWhile
      Char.isDigit = padded 4 n := by
    rw [List.take_length]
    exact Text.takeWhile_field (fun _ => isDigit_of_mem_padded) (by decide) rest
  rw [digits?_append hleast htake, value_padded]

theorem isBlank_of_isDigit {c : Char} (h : c.isDigit) : isBlank c = false := by
  simp only [Char.isDigit, Bool.and_eq_true, decide_eq_true_eq, UInt32.le_iff_toNat_le] at h
  have hc : 48 ≤ c.toNat ∧ c.toNat ≤ 57 := h
  simp [isBlank]
  omega

theorem trimStart_padded (width n : Nat) (rest : List Char) :
    trimStart (padded width n ++ rest) = padded width n ++ rest := by
  obtain ⟨c, ds, hds⟩ := List.exists_cons_of_ne_nil (padded_ne_nil width n)
  have hmem : c ∈ padded width n := by simp [hds]
  have hc : isBlank c = false := isBlank_of_isDigit (isDigit_of_mem_padded hmem)
  simp [trimStart, hds, hc]

theorem trimStart_cons (hm : isBlank mark = false) (rest : List Char) :
    trimStart (mark :: rest) = mark :: rest := by
  simp [trimStart, hm]

theorem expect?_cons (mark : Char) (rest : List Char) : expect? mark (mark :: rest) = some rest :=
  if_pos rfl

theorem expect?_trimStart (hm : isBlank mark = false) (rest : List Char) :
    expect? mark (trimStart (mark :: rest)) = some rest := by
  rw [trimStart_cons hm, expect?_cons]

theorem shortField?_padded {n : Nat} (hn : n < 100) (rest : List Char) :
    shortField? (padded 2 n ++ rest) = some (n, rest) := by
  rw [shortField?, trimStart_padded, digits?_padded (by decide) (by decide) hn]

theorem yearField?_plain {n : Nat} (hn : n < 10000) (rest : List Char) :
    yearField? (padded 4 n ++ rest) = some ((n : Int), rest) := by
  have hhead := Instant.head?_padded_isDigit 4 n rest
  rw [yearField?, trimStart_padded]
  split
  · next h =>
    rw [h] at hhead
    contradiction
  · next h =>
    rw [h] at hhead
    contradiction
  · rw [digits?_padded (by decide) (by decide) hn]
    rfl

theorem yearField?_yearText (y : Int) (rest : List Char) :
    yearField? (Instant.yearText y ++ '-' :: rest) = some (y, '-' :: rest) := by
  by_cases hy : 0 ≤ y ∧ y ≤ 9999
  · rw [Instant.yearText_plain hy, yearField?_plain (by omega), Int.toNat_of_nonneg hy.1]
  · obtain ⟨sign, hsign, -, htext⟩ := Instant.yearText_signed hy
    rw [htext, List.cons_append, yearField?]
    split at hsign
    · subst hsign
      rw [trimStart_cons (by decide)]
      simp only [digits?_signed, Option.map_some, Option.some.injEq, Prod.mk.injEq, and_true]
      omega
    · subst hsign
      rw [trimStart_cons (by decide)]
      simp only [digits?_signed, Option.map_some, Option.some.injEq, Prod.mk.injEq, and_true]
      omega

theorem dateFields?_fields (d : Date) (rest : List Char) :
    dateFields? (Instant.yearText d.year ++
        '-' :: (padded 2 d.month ++ '-' :: (padded 2 d.day ++ rest))) = some (d, rest) := by
  have hblank : isBlank '-' = false := by decide
  have hdate : Date.of? d.year d.month d.day = some d := Date.of?_eq_some_iff.mpr ⟨rfl, rfl, rfl⟩
  simp only [dateFields?, yearField?_yearText, expect?_trimStart hblank, Option.bind_eq_bind,
    Option.bind_some, shortField?_padded d.month_lt, shortField?_padded d.day_lt, hdate]
  rfl

namespace Instant

/-- The fraction that is written for so many nanoseconds. -/
def storedFraction (n : Nat) : List Char :=
  if n = 0 then []
  else if n % 1000000 = 0 then '.' :: padded 3 (n / 1000000)
  else if n % 1000 = 0 then '.' :: padded 6 (n / 1000)
  else '.' :: padded 9 n

theorem storedText_eq (t : Instant) :
    t.storedText = t.secondsText ++ storedFraction (t.nanosecond.val % 1000000000) ++ ['Z'] := rfl

theorem fraction?_digits {ds : List Char} (hdigits : ∀ c ∈ ds, c.isDigit) (hne : ds ≠ [])
    (hlength : ds.length ≤ 9) (hm : mark.isDigit = false) (rest : List Char) :
    fraction? ('.' :: (ds ++ mark :: rest)) =
      some (value ds * 10 ^ (9 - ds.length), mark :: rest) := by
  simp only [fraction?, Text.takeWhile_field hdigits hm, Text.dropWhile_field hdigits hm,
    List.take_of_length_le hlength]
  simp [hne]

theorem fraction?_point {width n : Nat} (hwidth : 0 < width) (hw : width ≤ 9) (hn : n < 10 ^ width)
    (hm : mark.isDigit = false) (rest : List Char) :
    fraction? ('.' :: (padded width n ++ mark :: rest)) =
      some (n * 10 ^ (9 - width), mark :: rest) := by
  have hlength := length_padded hwidth hn
  rw [fraction?_digits (fun c => isDigit_of_mem_padded) (padded_ne_nil width n)
    (hlength.trans_le hw) hm, value_padded, hlength]

theorem fraction?_storedFraction {n : Nat} (hn : n < 1000000000) (rest : List Char) :
    fraction? (storedFraction n ++ 'Z' :: rest) = some (n, 'Z' :: rest) := by
  have hZ : 'Z'.isDigit = false := by decide
  unfold storedFraction
  split
  · next h =>
    subst h
    rfl
  · split
    · next h =>
      have hwhole : n / 1000000 * 10 ^ (9 - 3) = n :=
        Nat.div_mul_cancel (Nat.dvd_of_mod_eq_zero h)
      rw [List.cons_append, fraction?_point (by decide) (by decide) (by omega) hZ, hwhole]
    · split
      · next h =>
        have hwhole : n / 1000 * 10 ^ (9 - 6) = n :=
          Nat.div_mul_cancel (Nat.dvd_of_mod_eq_zero h)
        rw [List.cons_append, fraction?_point (by decide) (by decide) (by omega) hZ, hwhole]
      · rw [List.cons_append, fraction?_point (by decide) (by decide) hn hZ, Nat.sub_self,
          pow_zero, mul_one]

/-- Second sixty is shown only in a leap second. -/
theorem clock?_shown (t : Instant) :
    clock? (t.second.val / 3600) (t.second.val / 60 % 60) t.shownSecond
      (t.nanosecond.val % 1000000000) = some (t.second.val, t.nanosecond.val) := by
  have hs := t.second.isLt
  have hn := t.nanosecond.isLt
  have hleap := t.isLeap
  unfold clock? shownSecond
  rw [if_neg (by omega)]
  split
  · next h =>
    rw [Option.some.injEq, Prod.mk.injEq]
    omega
  · next h =>
    rw [Option.some.injEq, Prod.mk.injEq]
    omega

theorem ofLocal?_utc (t : Instant) :
    ofLocal? t.date t.second.val t.nanosecond.val 0 = some t := by
  have hs := t.second.isLt
  have hbounds : t.second.val < 86400 ∧ t.nanosecond.val < 2000000000 ∧
      (1000000000 ≤ t.nanosecond.val → t.second.val % 60 = 59) :=
    ⟨t.second.isLt, t.nanosecond.isLt, t.isLeap⟩
  unfold ofLocal?
  simp only [Int.mul_zero, Int.sub_zero]
  rw [if_neg (by omega), if_pos (by omega), Int.toNat_natCast, of?, dif_pos hbounds]

theorem readRelaxed?_storedText (t : Instant) : readRelaxed? t.storedText = some t := by
  have hs := t.second.isLt
  have hcolon : isBlank ':' = false := by decide
  have hfraction : t.nanosecond.val % 1000000000 < 1000000000 := Nat.mod_lt _ (by decide)
  have hhour : t.second.val / 3600 < 100 := by omega
  have hminute : t.second.val / 60 % 60 < 100 := by omega
  have hzone : relaxedOffset? (trimStart ['Z']) = some (0, []) := by decide
  have hempty : (trimStart []).isEmpty = true := rfl
  rw [storedText_eq, List.append_assoc, secondsText_append, readRelaxed?]
  refine Option.bind_eq_some_iff.mpr ⟨_, dateFields?_fields _ _, ?_⟩
  refine Option.bind_eq_some_iff.mpr ⟨_, rfl, ?_⟩
  refine Option.bind_eq_some_iff.mpr ⟨_, shortField?_padded hhour _, ?_⟩
  refine Option.bind_eq_some_iff.mpr ⟨_, expect?_trimStart hcolon _, ?_⟩
  refine Option.bind_eq_some_iff.mpr ⟨_, shortField?_padded hminute _, ?_⟩
  refine Option.bind_eq_some_iff.mpr ⟨_, expect?_trimStart hcolon _, ?_⟩
  refine Option.bind_eq_some_iff.mpr ⟨_, shortField?_padded t.shownSecond_lt _, ?_⟩
  refine Option.bind_eq_some_iff.mpr ⟨_, fraction?_storedFraction hfraction _, ?_⟩
  refine Option.bind_eq_some_iff.mpr ⟨_, hzone, ?_⟩
  refine Option.bind_eq_some_iff.mpr ⟨_, clock?_shown t, ?_⟩
  dsimp only
  rw [if_pos hempty, ofLocal?_utc]

end Instant

end RecordQuery.Time
