import Mathlib
import RecordQuery.Text.Lower

/-!
# Lower case of a piece of a text

Within a text a piece gets the lower case that it has on its own, character by character, except for
capital sigmas at an end of the piece that the rest of the text separates from the end of their word.
-/
namespace RecordQuery.Text.Lower

/-- The lower case of a piece, given what stands before it, in reverse, and after it. -/
def lowerBetween (before after : List Char) : List Char → List Char
  | [] => []
  | c :: rest =>
    (if c = 'Σ' then [sigma before (rest ++ after)] else lowerChar c) ++
      lowerBetween (c :: before) after rest

theorem lowerFrom_eq (before text : List Char) :
    lowerFrom before text = lowerBetween before [] text := by
  induction text generalizing before with
  | nil => rfl
  | cons c text ih => simp [lowerFrom, lowerBetween, ih]

theorem lowerBetween_append (before after front piece : List Char) :
    lowerBetween before after (front ++ piece) = lowerBetween before (piece ++ after) front ++
      lowerBetween (front.reverse ++ before) after piece := by
  induction front generalizing before with
  | nil => rfl
  | cons c front ih => simp [lowerBetween, ih]

theorem lower_append (front piece back : List Char) :
    lower (front ++ piece ++ back) = lowerBetween [] (piece ++ back) front ++
      lowerBetween front.reverse back piece ++ lowerBetween (front ++ piece).reverse [] back := by
  rw [lower, lowerFrom_eq, lowerBetween_append, lowerBetween_append]
  simp

theorem length_lowerBetween (before after before' after' piece : List Char) :
    (lowerBetween before after piece).length = (lowerBetween before' after' piece).length := by
  induction piece generalizing before before' with
  | nil => rfl
  | cons c piece ih =>
    simp only [lowerBetween, List.length_append, ih (c :: before) (c :: before')]
    split <;> rfl

/-- All that two surroundings can change of a piece are the forms of its capital sigmas. -/
theorem lowerBetween_eq_iff (before after before' after' piece : List Char) :
    lowerBetween before after piece = lowerBetween before' after' piece ↔
      ∀ p s, piece = p ++ 'Σ' :: s →
        sigma (p.reverse ++ before) (s ++ after) = sigma (p.reverse ++ before') (s ++ after') := by
  induction piece generalizing before before' with
  | nil => simp [lowerBetween]
  | cons c piece ih =>
    have hlength : (if c = 'Σ' then [sigma before (piece ++ after)] else lowerChar c).length =
        (if c = 'Σ' then [sigma before' (piece ++ after')] else lowerChar c).length := by
      split <;> rfl
    rw [lowerBetween, lowerBetween]
    constructor
    · intro h p s hpiece
      obtain ⟨hfirst, hrest⟩ := List.append_inj h hlength
      cases p with
      | nil =>
        obtain ⟨rfl, rfl⟩ := List.cons.inj hpiece
        simpa using hfirst
      | cons d p =>
        obtain ⟨rfl, rfl⟩ := List.cons.inj hpiece
        simpa using (ih _ _).mp hrest p s rfl
    · intro h
      have hrest := (ih (c :: before) (c :: before')).mpr fun p s hpiece => by
        simpa using h (c :: p) s (by simp [hpiece])
      rw [hrest]
      congr 1
      split
      · next hc => exact congrArg (fun d => [d]) (h [] piece (by simp [hc]))
      · rfl

theorem meetsLetter_of_all {text : List Char} (h : text.all isIgnorable) :
    meetsLetter text = false := by
  have hnone : text.dropWhile isIgnorable = [] := by
    rw [List.dropWhile_eq_nil_iff]
    simpa using h
  rw [meetsLetter, hnone]

theorem meetsLetter_append (text rest : List Char) :
    meetsLetter (text ++ rest) =
      if text.all isIgnorable then meetsLetter rest else meetsLetter text := by
  induction text with
  | nil => rfl
  | cons c text ih =>
    by_cases hc : isIgnorable c
    · simpa [meetsLetter, hc] using ih
    · simp [meetsLetter, hc]

/-- The word of a capital sigma goes on behind a piece that has it for the end of a word, or the
word that ends with it begins before a piece that has it for the beginning. -/
def Torn (front piece back : List Char) : Prop :=
  ∃ p s, piece = p ++ 'Σ' :: s ∧
    (s.all isIgnorable ∧ meetsLetter p.reverse ∧ meetsLetter back ∨
      p.all isIgnorable ∧ meetsLetter front.reverse ∧ ¬meetsLetter (s ++ back))

theorem sigma_ne_iff (front p s back : List Char) :
    sigma (p.reverse ++ front.reverse) (s ++ back) ≠ sigma p.reverse s ↔
      s.all isIgnorable ∧ meetsLetter p.reverse ∧ meetsLetter back ∨
        p.all isIgnorable ∧ meetsLetter front.reverse ∧ ¬meetsLetter (s ++ back) := by
  have hforms : 'σ' ≠ 'ς' := by decide
  have hp (h : p.all isIgnorable) : meetsLetter p.reverse = false :=
    meetsLetter_of_all (by rwa [List.all_reverse])
  have hs (h : s.all isIgnorable) : meetsLetter s = false := meetsLetter_of_all h
  simp only [sigma, meetsLetter_append, List.all_reverse]
  by_cases hpall : p.all isIgnorable
  · by_cases hsall : s.all isIgnorable
    · simp [hpall, hsall, hp hpall, hs hsall]
    · simp [hpall, hsall, hp hpall]
  · by_cases hsall : s.all isIgnorable
    · cases meetsLetter p.reverse <;> simp [hpall, hsall, hs hsall, hforms]
    · simp [hpall, hsall]

variable {front piece back : List Char}

theorem lowerBetween_eq_lower_iff :
    lowerBetween front.reverse back piece = lower piece ↔ ¬Torn front piece back := by
  rw [lower, lowerFrom_eq, lowerBetween_eq_iff]
  simp only [List.append_nil, Torn, ← sigma_ne_iff]
  push Not
  rfl

theorem not_torn_of_not_mem (h : 'Σ' ∉ piece) : ¬Torn front piece back := by
  rintro ⟨p, s, rfl, -⟩
  simp at h

/-- Where a word neither reaches a piece from the front nor goes on behind it, nothing is torn. -/
theorem not_torn_of_whole (hfront : ¬meetsLetter front.reverse) (hback : ¬meetsLetter back) :
    ¬Torn front piece back := by
  rintro ⟨p, s, rfl, ⟨-, -, h⟩ | ⟨-, h, -⟩⟩
  · exact hback h
  · exact hfront h

/-- The lower case of a piece that is not torn stands in the lower case of the text. -/
theorem lower_occurs (h : ¬Torn front piece back) :
    lower piece <:+: lower (front ++ piece ++ back) := by
  rw [← lowerBetween_eq_lower_iff.mpr h, lower_append]
  exact ⟨_, _, rfl⟩

theorem length_lower (before after piece : List Char) :
    (lower piece).length = (lowerBetween before after piece).length := by
  rw [lower, lowerFrom_eq]
  exact length_lowerBetween _ _ _ _ piece

theorem lower_prefix_iff : lower piece <+: lower (piece ++ back) ↔ ¬Torn [] piece back := by
  have hsplit := lower_append [] piece back
  simp only [List.nil_append, lowerBetween] at hsplit
  rw [hsplit, ← lowerBetween_eq_lower_iff]
  constructor
  · rintro ⟨rest, hrest⟩
    exact (List.append_inj hrest (length_lower _ _ piece)).1.symm
  · intro h
    rw [h]
    exact List.prefix_append _ _

theorem lower_suffix_iff : lower piece <:+ lower (front ++ piece) ↔ ¬Torn front piece [] := by
  have hsplit := lower_append front piece []
  simp only [List.append_nil, lowerBetween] at hsplit
  rw [hsplit, ← lowerBetween_eq_lower_iff]
  constructor
  · rintro ⟨rest, hrest⟩
    exact (List.append_inj_right' hrest (length_lower _ _ piece)).symm
  · intro h
    rw [h]
    exact List.suffix_append _ _

end RecordQuery.Text.Lower
