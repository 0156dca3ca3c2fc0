import Mathlib
import RecordQuery.Proofs.Text.Digits
import RecordQuery.Proofs.Text.Mark
import RecordQuery.Time.Instant

/-!
# Instants in a clause

Different instants are spelled differently, leap seconds and years of more than four digits
included.
-/
namespace RecordQuery.Time

open Text.Digits

theorem Date.month_lt (d : Date) : d.month < 100 := by
  have := d.isDate.2.1.2
  omega

theorem daysIn_le (year : Int) (month : Nat) : daysIn year month ≤ 31 := by
  unfold daysIn
  split
  · split <;> omega
  · split <;> omega

theorem Date.day_lt (d : Date) : d.day < 100 := by
  have := d.isDate.2.2.2
  have := daysIn_le d.year d.month
  omega

namespace Instant

variable {rest rest' : List Char}

theorem head?_padded_isDigit (width n : Nat) (rest : List Char) :
    (padded width n ++ rest).head?.any Char.isDigit := by
  obtain ⟨c, ds, hds⟩ := List.exists_cons_of_ne_nil (padded_ne_nil width n)
  have hc : c ∈ padded width n := by simp [hds]
  simp [hds, isDigit_of_mem_padded hc]

theorem yearText_plain {y : Int} (h : 0 ≤ y ∧ y ≤ 9999) : yearText y = padded 4 y.toNat := by
  rw [yearText, if_pos h]

theorem yearText_signed {y : Int} (h : ¬(0 ≤ y ∧ y ≤ 9999)) :
    ∃ sign, sign = (if y < 0 then '-' else '+') ∧ sign.isDigit = false ∧
      yearText y = sign :: padded 4 y.natAbs := by
  refine ⟨_, rfl, ?_, ?_⟩
  · split <;> decide
  · rw [yearText, if_neg h]

/-- The hyphen behind a year ends it. -/
theorem yearText_append_inj {y z : Int}
    (h : yearText y ++ '-' :: rest = yearText z ++ '-' :: rest') : y = z ∧ rest = rest' := by
  have hdigits {m n : Nat} (h : padded 4 m ++ '-' :: rest = padded 4 n ++ '-' :: rest') :
      m = n ∧ rest = rest' := by
    obtain ⟨hfield, hrest⟩ := Text.field_inj (fun _ => isDigit_of_mem_padded)
      (fun _ => isDigit_of_mem_padded) (by decide) (by decide) h
    exact ⟨padded_injective 4 hfield, (List.cons.inj hrest).2⟩
  have hsign {c : Char} (hc : c.isDigit = false) {n : Nat} {r r' : List Char} :
      padded 4 n ++ r ≠ c :: r' := by
    intro h
    have := head?_padded_isDigit 4 n r
    simp [h, hc] at this
  by_cases hy : 0 ≤ y ∧ y ≤ 9999
  · rw [yearText_plain hy] at h
    by_cases hz : 0 ≤ z ∧ z ≤ 9999
    · rw [yearText_plain hz] at h
      obtain ⟨hn, hrest⟩ := hdigits h
      exact ⟨by omega, hrest⟩
    · obtain ⟨_, -, hd, hz⟩ := yearText_signed hz
      rw [hz] at h
      exact absurd h (hsign hd)
  · obtain ⟨_, hs, hd, hty⟩ := yearText_signed hy
    rw [hty] at h
    by_cases hz : 0 ≤ z ∧ z ≤ 9999
    · rw [yearText_plain hz] at h
      exact absurd h.symm (hsign hd)
    · obtain ⟨_, hs', -, htz⟩ := yearText_signed hz
      rw [htz] at h
      obtain ⟨he, h⟩ := List.cons.inj h
      obtain ⟨hn, hrest⟩ := hdigits h
      refine ⟨?_, hrest⟩
      rw [hs, hs'] at he
      split at he <;> split at he <;> first | omega | simp at he

/-- The second that is shown, which is sixty in a leap second. -/
def shownSecond (t : Instant) : Nat := t.second.val % 60 + t.nanosecond.val / 1000000000

theorem shownSecond_lt (t : Instant) : t.shownSecond < 100 := by
  have := t.nanosecond.isLt
  unfold shownSecond
  omega

theorem secondsText_append (t : Instant) (rest : List Char) :
    t.secondsText ++ rest = yearText t.date.year ++ '-' :: (padded 2 t.date.month ++
      '-' :: (padded 2 t.date.day ++ 'T' :: (padded 2 (t.second.val / 3600) ++
        ':' :: (padded 2 (t.second.val / 60 % 60) ++ ':' :: (padded 2 t.shownSecond ++ rest))))) := by
  simp only [secondsText, List.append_assoc, List.cons_append]
  rfl

theorem secondsText_append_inj {t u : Instant}
    (h : t.secondsText ++ rest = u.secondsText ++ rest') :
    t.date = u.date ∧ t.second.val / 60 = u.second.val / 60 ∧ t.shownSecond = u.shownSecond ∧
      rest = rest' := by
  have two {m n : Nat} (hm : m < 100) (hn : n < 100) {c c' : Char} {r r' : List Char}
      (h : padded 2 m ++ c :: r = padded 2 n ++ c' :: r') : m = n ∧ r = r' := by
    obtain ⟨hfield, hrest⟩ := padded_append_inj (by decide) hm hn h
    exact ⟨hfield, (List.cons.inj hrest).2⟩
  have hour (t : Instant) : t.second.val / 3600 < 100 := by
    have := t.second.isLt
    omega
  rw [secondsText_append, secondsText_append] at h
  obtain ⟨hyear, h⟩ := yearText_append_inj h
  obtain ⟨hmonth, h⟩ := two t.date.month_lt u.date.month_lt h
  obtain ⟨hday, h⟩ := two t.date.day_lt u.date.day_lt h
  obtain ⟨hhour, h⟩ := two (hour t) (hour u) h
  obtain ⟨hminute, h⟩ := two (by omega) (by omega) h
  obtain ⟨hsecond, h⟩ := padded_append_inj (by decide) t.shownSecond_lt u.shownSecond_lt h
  refine ⟨?_, by omega, hsecond, h⟩
  have hd := Date.of?_eq_some_iff.mpr ⟨hyear, hmonth, hday⟩
  exact Option.some.inj (hd.symm.trans (Date.of?_eq_some_iff.mpr ⟨rfl, rfl, rfl⟩))

theorem trimZeros_append_zeros (ds : List Char) :
    trimZeros ds ++ List.replicate (ds.length - (trimZeros ds).length) '0' = ds := by
  have htrim : trimZeros ds = ds.rdropWhile (· = '0') := rfl
  have hsplit : ds.rdropWhile (· = '0') ++ ds.rtakeWhile (· = '0') = ds :=
    List.rdropWhile_append_rtakeWhile
  have hzeros : ds.rtakeWhile (· = '0') = List.replicate (ds.rtakeWhile (· = '0')).length '0' := by
    refine List.eq_replicate_of_mem fun c hc => ?_
    simpa using List.mem_takeWhile_imp (List.mem_reverse.mp hc)
  have hlength := congrArg List.length hsplit
  rw [List.length_append] at hlength
  rw [htrim, show ds.length - _ = (ds.rtakeWhile (· = '0')).length by omega, ← hzeros, hsplit]

theorem trimZeros_inj {ds es : List Char} (hl : ds.length = es.length)
    (h : trimZeros ds = trimZeros es) : ds = es := by
  rw [← trimZeros_append_zeros ds, ← trimZeros_append_zeros es, h, hl]

/-- A leap second shows in the second, so the fraction tells the rest. -/
theorem eq_of_shown {t u : Instant} (hdate : t.date = u.date)
    (hminute : t.second.val / 60 = u.second.val / 60) (hsecond : t.shownSecond = u.shownSecond)
    (hfraction : t.nanosecond.val % 1000000000 = u.nanosecond.val % 1000000000) : t = u := by
  have ht := t.nanosecond.isLt
  have hu := u.nanosecond.isLt
  have htl := t.isLeap
  have hul := u.isLeap
  unfold shownSecond at hsecond
  have hs : t.second = u.second := Fin.ext (by omega)
  have hn : t.nanosecond = u.nanosecond := Fin.ext (by omega)
  cases t
  cases u
  cases hdate
  cases hs
  cases hn
  rfl

theorem clauseText_injective : Function.Injective clauseText := by
  intro t u h
  have hwidth (t : Instant) :
      (padded 9 (t.nanosecond.val % 1000000000)).length = 9 :=
    length_padded (by decide) (Nat.mod_lt _ (by decide))
  unfold clauseText at h
  split at h
  · next ht =>
    split at h
    · next hu =>
      obtain ⟨hdate, hminute, hsecond, -⟩ := secondsText_append_inj h
      exact eq_of_shown hdate hminute hsecond (by rw [ht, hu])
    · rw [List.append_assoc] at h
      have := (secondsText_append_inj h).2.2.2
      simp at this
  · split at h
    · rw [List.append_assoc] at h
      have := (secondsText_append_inj h).2.2.2
      simp at this
    · rw [List.append_assoc, List.append_assoc] at h
      obtain ⟨hdate, hminute, hsecond, h⟩ := secondsText_append_inj h
      have htrim := List.append_cancel_right (List.cons.inj h).2
      have hdigits := trimZeros_inj (by rw [hwidth, hwidth]) htrim
      exact eq_of_shown hdate hminute hsecond (padded_injective 9 hdigits)

end Instant

end RecordQuery.Time
