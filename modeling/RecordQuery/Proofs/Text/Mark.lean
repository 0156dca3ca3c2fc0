import Mathlib

/-!
# Texts cut at a mark

A text whose first mark ends a field determines the field and what follows it. What treats a text
part by part and leaves marks alone treats the fields between marks one by one.
-/
namespace RecordQuery.Text

variable {α : Type} {isInside : α → Bool} {field field' rest rest' : List α} {mark mark' : α}

theorem takeWhile_field (h : ∀ c ∈ field, isInside c) (hm : isInside mark = false)
    (rest : List α) : (field ++ mark :: rest).takeWhile isInside = field := by
  rw [List.takeWhile_append_of_pos h]
  simp [hm]

theorem dropWhile_field (h : ∀ c ∈ field, isInside c) (hm : isInside mark = false)
    (rest : List α) : (field ++ mark :: rest).dropWhile isInside = mark :: rest := by
  rw [List.dropWhile_append_of_pos h]
  simp [hm]

theorem field_inj (h : ∀ c ∈ field, isInside c) (h' : ∀ c ∈ field', isInside c)
    (hm : isInside mark = false) (hm' : isInside mark' = false)
    (he : field ++ mark :: rest = field' ++ mark' :: rest') :
    field = field' ∧ mark :: rest = mark' :: rest' := by
  have hfield := congrArg (List.takeWhile isInside) he
  rw [takeWhile_field h hm, takeWhile_field h' hm'] at hfield
  subst hfield
  exact ⟨rfl, List.append_cancel_left he⟩

theorem apply_intercalate {f : List α → List α} (happend : ∀ s t, f (s ++ t) = f s ++ f t)
    (hmark : f [mark] = [mark]) (fields : List (List α)) :
    f ([mark].intercalate fields) = [mark].intercalate (fields.map f) := by
  induction fields with
  | nil => simpa using happend [] []
  | cons field fields ih =>
    cases fields with
    | nil => simp
    | cons next fields =>
      rw [List.intercalate_cons_cons, happend, happend, hmark, ih]
      simp [List.intercalate_cons_cons]

/-- No part of a text that is split at a mark has the mark in it. -/
theorem not_mem_of_mem_splitOn [DecidableEq α] {text : List α}
    (h : field ∈ text.splitOn mark) : mark ∉ field := by
  induction text generalizing field with
  | nil =>
    simp only [List.splitOn_nil, List.mem_singleton] at h
    simp [h]
  | cons c text ih =>
    obtain ⟨next, fields, hsplit⟩ := List.exists_cons_of_ne_nil (List.splitOn_ne_nil mark text)
    rw [List.splitOn_cons_eq_if_modifyHead] at h
    split_ifs at h with hc
    · rcases List.mem_cons.mp h with rfl | h
      · simp
      · exact ih h
    · rw [hsplit, List.modifyHead_cons] at h
      rcases List.mem_cons.mp h with rfl | h
      · have hnext := ih (hsplit ▸ List.mem_cons_self)
        have hne : mark ≠ c := fun heq => hc (by simp [heq])
        simp [hnext, hne]
      · exact ih (hsplit ▸ List.mem_cons_of_mem _ h)

section Joined

variable [DecidableEq α] {fields fields' : List (List α)}

/-- Joined fields have their own marks, and one between each two of them. -/
theorem count_intercalate (mark : α) (hne : fields ≠ []) :
    ([mark].intercalate fields).count mark + 1 =
      (fields.map fun field => field.count mark + 1).sum := by
  induction fields with
  | nil => contradiction
  | cons field fields ih =>
    cases fields with
    | nil => simp
    | cons next fields =>
      have hrest := ih (by simp)
      rw [List.intercalate_cons_cons, List.count_append, List.count_append, List.map_cons,
        List.sum_cons, ← hrest, List.count_singleton_self]
      omega

/-- Fields without marks are found in the joined text by their number alone. -/
theorem fields_eq_of_intercalate_eq (hlength : fields'.length = fields.length)
    (hplain : ∀ field ∈ fields, mark ∉ field)
    (he : [mark].intercalate fields' = [mark].intercalate fields) : fields' = fields := by
  by_cases hne : fields = []
  · subst hne
    exact List.length_eq_zero_iff.mp hlength
  · have hne' : fields' ≠ [] := by
      rintro rfl
      exact hne (List.length_eq_zero_iff.mp hlength.symm)
    have hcount := count_intercalate mark hne'
    have hones : (fields.map fun field => field.count mark + 1).sum = fields.length := by
      rw [List.map_congr_left fun field hf => by rw [List.count_eq_zero.mpr (hplain field hf)]]
      simp
    rw [he, count_intercalate mark hne, hones, ← hlength, List.sum_map_add] at hcount
    have hplain' : ∀ field ∈ fields', mark ∉ field := by
      have hzero : (fields'.map (List.count mark)).sum = 0 := by simp at hcount; omega
      intro field hf
      exact List.count_eq_zero.mp (List.sum_eq_zero_iff.mp hzero _ (List.mem_map_of_mem hf))
    have hsplit := congrArg (List.splitOn mark) he
    rwa [List.splitOn_intercalate mark hplain' hne', List.splitOn_intercalate mark hplain hne]
      at hsplit

end Joined

end RecordQuery.Text
