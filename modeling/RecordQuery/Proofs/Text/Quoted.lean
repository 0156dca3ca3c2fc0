import Mathlib
import RecordQuery.Text.Quoted

/-!
# Reading quoted strings

What the scanner reads: exactly a quoted string, whatever stands behind its closing quote, unless
that is one more quote.
-/
namespace RecordQuery.Text.Quoted

theorem double_eq_self {w : List Char} (hw : '\'' ∉ w) : double w = w := by
  induction w with
  | nil => rfl
  | cons c w ih =>
    obtain ⟨hc, hw⟩ := List.ne_and_not_mem_of_not_mem_cons hw
    rw [double_cons hc.symm, ih hw]

theorem scanBody?_length {text content rest : List Char}
    (h : scanBody? text = some (content, rest)) : rest.length < text.length := by
  fun_induction scanBody? text generalizing content rest with
  | case1 => simp at h
  | case2 text ih =>
    obtain ⟨⟨s, r⟩, hs, he⟩ := Option.map_eq_some_iff.mp h
    obtain ⟨-, rfl⟩ := Prod.mk.inj he
    have := ih hs
    simp only [List.length_cons]
    omega
  | case3 text => simp_all
  | case4 c text _ hc ih =>
    obtain ⟨⟨s, r⟩, hs, he⟩ := Option.map_eq_some_iff.mp h
    obtain ⟨-, rfl⟩ := Prod.mk.inj he
    have := ih hs
    simp only [List.length_cons]
    omega

/-- A quote that is not doubled ends the string. -/
theorem scanBody?_quote {rest : List Char} (h : rest.head? ≠ some '\'') :
    scanBody? ('\'' :: rest) = some ([], rest) := by
  rw [scanBody?]
  · simp
  · rintro r - rfl
    simp at h

theorem scanBody?_cons {c : Char} (h : c ≠ '\'') (rest : List Char) :
    scanBody? (c :: rest) = (scanBody? rest).map fun r => (c :: r.1, r.2) := by
  rw [scanBody?]
  · simp [h]
  · rintro r rfl
    exact absurd rfl h

theorem scanBody?_double (s : List Char) {rest : List Char} (h : rest.head? ≠ some '\'') :
    scanBody? (double s ++ '\'' :: rest) = some (s, rest) := by
  induction s with
  | nil => exact scanBody?_quote h
  | cons c s ih =>
    by_cases hc : c = '\''
    · subst hc
      simp [scanBody?, ih]
    · simp [double_cons hc, scanBody?_cons hc, ih]

theorem eq_of_scanBody? {text content rest : List Char}
    (h : scanBody? text = some (content, rest)) :
    text = double content ++ '\'' :: rest ∧ rest.head? ≠ some '\'' := by
  fun_induction scanBody? text generalizing content rest with
  | case1 => simp at h
  | case2 text ih =>
    obtain ⟨⟨s, r⟩, hs, he⟩ := Option.map_eq_some_iff.mp h
    obtain ⟨rfl, rfl⟩ := Prod.mk.inj he
    obtain ⟨rfl, hr⟩ := ih hs
    exact ⟨rfl, hr⟩
  | case3 text hdoubled =>
    obtain ⟨rfl, rfl⟩ := Prod.mk.inj (Option.some.inj h)
    refine ⟨rfl, fun hq => ?_⟩
    obtain ⟨r, rfl⟩ := List.head?_eq_some_iff.mp hq
    exact hdoubled r rfl rfl
  | case4 c text _ hc ih =>
    obtain ⟨⟨s, r⟩, hs, he⟩ := Option.map_eq_some_iff.mp h
    obtain ⟨rfl, rfl⟩ := Prod.mk.inj he
    obtain ⟨rfl, hr⟩ := ih hs
    exact ⟨by rw [double_cons hc, List.cons_append], hr⟩

theorem scan?_quote {rest : List Char} (h : rest.head? ≠ some '\'') (s : List Char) :
    scan? (quote s ++ rest) = some (s, rest) := by
  have hquote : quote s ++ rest = '\'' :: (double s ++ '\'' :: rest) := by simp [quote]
  rw [hquote]
  exact scanBody?_double s h

/-- Nothing but a quoted string is read, and it is read to its end. -/
theorem scan?_eq_some_iff {text content rest : List Char} :
    scan? text = some (content, rest) ↔
      text = quote content ++ rest ∧ rest.head? ≠ some '\'' := by
  refine ⟨fun h => ?_, fun ⟨htext, hrest⟩ => htext ▸ scan?_quote hrest content⟩
  unfold scan? at h
  split at h
  · next body =>
    obtain ⟨rfl, hrest⟩ := eq_of_scanBody? h
    exact ⟨by simp [quote], hrest⟩
  · contradiction

theorem quote_injective : Function.Injective quote := by
  intro s t h
  have hs : scan? (quote s ++ []) = some (s, []) := scan?_quote (by simp) s
  rw [h, scan?_quote (by simp)] at hs
  exact (Prod.mk.inj (Option.some.inj hs)).1.symm

end RecordQuery.Text.Quoted
