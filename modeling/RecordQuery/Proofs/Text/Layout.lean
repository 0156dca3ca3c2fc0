import RecordQuery.Proofs.Text.Quoted

/-!
# Texts with strings in them

Where quoted strings stand in a longer text: each is read by the scanner from its first quote to its
last and no further. All other quotes belong to names that stand there as they are given; without
quotes in the names, a reader who knows none of them finds the same strings and no others.
-/
namespace RecordQuery.Text.Quoted

/-- Reading a text from the left, the scanner finds strings with these contents, between them
stand some of the names, whole, and no other character is a quote. -/
inductive Layout (names : List (List Char)) : List (List Char) → List Char → Prop
  | empty : Layout names [] []
  | mark {contents : List (List Char)} {text : List Char} {c : Char} (plain : c ≠ '\'')
      (h : Layout names contents text) : Layout names contents (c :: text)
  | name {contents : List (List Char)} {text w : List Char} (named : w ∈ names)
      (h : Layout names contents text) : Layout names contents (w ++ text)
  | string {contents : List (List Char)} {text content rest : List Char}
      (read : scan? text = some (content, rest)) (h : Layout names contents rest) :
      Layout names (content :: contents) text

variable {names names' contents contents' : List (List Char)} {text text' w : List Char}

/-- A string ends before anything that is no quote. -/
theorem Layout.quote (content : List Char) (hq : text.head? ≠ some '\'')
    (h : Layout names contents text) :
    Layout names (content :: contents) (quote content ++ text) :=
  .string (scan?_quote hq content) h

theorem Layout.word (hw : '\'' ∉ w) (h : Layout names contents text) :
    Layout names contents (w ++ text) := by
  induction w with
  | nil => exact h
  | cons c w ih =>
    obtain ⟨hc, hw⟩ := List.ne_and_not_mem_of_not_mem_cons hw
    exact .mark (Ne.symm hc) (ih hw)

theorem Layout.of_word (hw : '\'' ∉ w) : Layout names [] w := by
  have h : Layout names [] (w ++ []) := .word hw .empty
  simpa using h

theorem Layout.of_name (named : w ∈ names) : Layout names [] w := by
  have h : Layout names [] (w ++ []) := .name named .empty
  simpa using h

theorem Layout.of_quote (content : List Char) :
    Layout names [content] (Text.Quoted.quote content) := by
  have h : Layout names [content] (Text.Quoted.quote content ++ []) :=
    .quote content (by simp) .empty
  simpa using h

theorem Layout.mono (hn : names ⊆ names') (h : Layout names contents text) :
    Layout names' contents text := by
  induction h with
  | empty => exact .empty
  | mark plain _ ih => exact .mark plain ih
  | name named _ ih => exact .name (hn named) ih
  | string read _ ih => exact .string read ih

theorem Layout.append (h : Layout names contents text) (h' : Layout names contents' text')
    (hq : text'.head? ≠ some '\'') : Layout names (contents ++ contents') (text ++ text') := by
  induction h with
  | empty => exact h'
  | mark plain _ ih => exact .mark plain ih
  | name named _ ih =>
    rw [List.append_assoc]
    exact .name named ih
  | @string _ _ content rest read _ ih =>
    obtain ⟨rfl, hrest⟩ := scan?_eq_some_iff.mp read
    rw [List.append_assoc]
    refine .quote content ?_ ih
    cases rest with
    | nil => exact hq
    | cons => exact hrest

theorem Layout.append_word (h : Layout names contents text) (hw : '\'' ∉ w) :
    Layout names contents (text ++ w) := by
  have hq : w.head? ≠ some '\'' := fun hq => hw (List.mem_of_head? hq)
  simpa using h.append (.of_word hw) hq

/-- What stands between two texts keeps their strings apart. -/
theorem Layout.join (h : Layout names contents text) (h' : Layout names contents' text')
    (hne : w ≠ []) (hw : '\'' ∉ w) :
    Layout names (contents ++ contents') (text ++ (w ++ text')) := by
  refine h.append (h'.word hw) ?_
  rw [List.head?_append_of_ne_nil _ hne]
  exact fun hq => hw (List.mem_of_head? hq)

theorem Layout.intersperse {α : Type} {parts : α → List (List Char)} {texts : α → List Char}
    (hne : w ≠ []) (hw : '\'' ∉ w) {xs : List α} (h : ∀ x ∈ xs, Layout names (parts x) (texts x)) :
    Layout names (xs.flatMap parts) ((xs.map texts).intersperse w).flatten := by
  induction xs with
  | nil => exact .empty
  | cons x xs ih =>
    have hx := h x List.mem_cons_self
    have hxs := ih fun y hy => h y (List.mem_cons_of_mem _ hy)
    cases xs with
    | nil => simpa using hx
    | cons y ys => simpa using hx.join hxs hne hw

/-- Names without quotes are read like anything else. -/
theorem Layout.unnamed (hn : ∀ w ∈ names, '\'' ∉ w) (h : Layout names contents text) :
    Layout [] contents text := by
  induction h with
  | empty => exact .empty
  | mark plain _ ih => exact .mark plain ih
  | name named _ ih => exact ih.word (hn _ named)
  | string read _ ih => exact .string read ih

/-- A quote that is part of no name begins a string. -/
theorem Layout.unique (h : Layout [] contents text) (h' : Layout [] contents' text) :
    contents = contents' := by
  induction h generalizing contents' with
  | empty =>
    generalize ht : ([] : List Char) = text at h'
    cases h' with
    | empty => rfl
    | mark => contradiction
    | name named => contradiction
    | string read => subst ht; contradiction
  | @mark _ _ c plain _ ih =>
    generalize ht : c :: _ = text at h'
    cases h' with
    | empty => contradiction
    | mark _ h' => exact ih ((List.cons.inj ht).2 ▸ h')
    | name named => contradiction
    | string read =>
      obtain ⟨rfl, -⟩ := scan?_eq_some_iff.mp read
      exact absurd (List.cons.inj ht).1 plain
  | name named => contradiction
  | string read _ ih =>
    cases h' with
    | empty => contradiction
    | mark plain =>
      obtain ⟨ht, -⟩ := scan?_eq_some_iff.mp read
      exact absurd (List.cons.inj ht).1 plain
    | name named => contradiction
    | string read' h' =>
      rw [read] at read'
      obtain ⟨rfl, rfl⟩ := Prod.mk.inj (Option.some.inj read')
      rw [ih h']

end RecordQuery.Text.Quoted
