import Mathlib
import RecordQuery.Query.Basic

/-!
# The values of an option

What setting and removing options does to the values that an option has. Options, expansions and
the parts of a key are put into their rows in the same way: in the place of what has the same name.
-/
namespace RecordQuery

section Keyed

variable {α κ : Type} [DecidableEq κ] {key : α → κ} {x : α}

/-- Puts an element in the place of those with its key, or behind all others. -/
def putByKey (key : α → κ) (e : α) (row : List α) : List α :=
  if row.any (key · = key e) then row.map fun x => if key x = key e then e else x
  else row ++ [e]

theorem mem_putByKey_iff {e : α} {row : List α} :
    x ∈ putByKey key e row ↔ x = e ∨ (x ∈ row ∧ key x ≠ key e) := by
  unfold putByKey
  split
  · next hany =>
    obtain ⟨y, hy, hsame⟩ : ∃ y ∈ row, key y = key e := by simpa using hany
    rw [List.mem_map]
    constructor
    · rintro ⟨z, hz, rfl⟩
      split
      · exact .inl rfl
      · next hne => exact .inr ⟨hz, hne⟩
    · rintro (rfl | ⟨hx, hne⟩)
      · exact ⟨y, hy, if_pos hsame⟩
      · exact ⟨x, hx, if_neg hne⟩
  · next hnone =>
    have hnone : ∀ y ∈ row, key y ≠ key e := by simpa using hnone
    rw [List.mem_append, List.mem_singleton]
    constructor
    · rintro (hx | rfl)
      · exact .inr ⟨hx, hnone x hx⟩
      · exact .inl rfl
    · rintro (rfl | ⟨hx, -⟩)
      · exact .inr rfl
      · exact .inl hx

/-- Keys stay where they are; a new one comes last. -/
theorem map_putByKey (key : α → κ) (e : α) (row : List α) : (putByKey key e row).map key =
    if key e ∈ row.map key then row.map key else row.map key ++ [key e] := by
  unfold putByKey
  by_cases h : key e ∈ row.map key
  · have hany : row.any (key · = key e) := by simpa using h
    rw [if_pos h, if_pos hany, List.map_map]
    refine List.map_congr_left fun y _ => ?_
    by_cases hy : key y = key e <;> simp [hy]
  · have hany : ¬row.any (key · = key e) := by simpa using h
    rw [if_neg h, if_neg hany]
    simp

end Keyed

theorem setOption_eq (name value : String) (options : Pairs) :
    setOption name value options = putByKey Prod.fst (name, value) options := rfl

theorem Query.addExpansion_eq (e : Expansion) (es : List Expansion) :
    addExpansion e es = putByKey Expansion.navigation e es := rfl

theorem Query.key_eq (q : Query) (name : String) (value : Literal) : q.key name value =
    { q with keys := putByKey Prod.fst (q.aliases.resolve name, value) q.keys } := by
  unfold Query.key putByKey
  dsimp only
  split <;> rfl

/-- The values that a name has among some pairs, in their order. -/
def valuesOf (name : String) (pairs : Pairs) : List String :=
  (pairs.filter (·.1 = name)).map Prod.snd

variable {name other value : String} {pairs : Pairs}

@[simp] theorem valuesOf_nil : valuesOf name [] = [] := rfl

@[simp] theorem valuesOf_cons_self : valuesOf name ((name, value) :: pairs) =
    value :: valuesOf name pairs := by
  simp [valuesOf]

theorem valuesOf_cons_of_ne (h : other ≠ name) :
    valuesOf name ((other, value) :: pairs) = valuesOf name pairs := by
  simp [valuesOf, h]

@[simp] theorem valuesOf_append (pairs pairs' : Pairs) :
    valuesOf name (pairs ++ pairs') = valuesOf name pairs ++ valuesOf name pairs' := by
  simp [valuesOf]

theorem mem_valuesOf : value ∈ valuesOf name pairs ↔ (name, value) ∈ pairs := by
  simp only [valuesOf, List.mem_map, List.mem_filter, decide_eq_true_eq, Prod.exists]
  constructor
  · rintro ⟨_, _, ⟨h, rfl⟩, rfl⟩
    exact h
  · intro h
    exact ⟨name, value, ⟨h, rfl⟩, rfl⟩

theorem lookup_eq_head?_valuesOf (name : String) (pairs : Pairs) :
    pairs.lookup name = (valuesOf name pairs).head? := by
  induction pairs with
  | nil => rfl
  | cons p pairs ih =>
    obtain ⟨n, v⟩ := p
    by_cases hn : n = name
    · subst hn
      simp
    · have hne : (name == n) = false := by simpa using Ne.symm hn
      rw [List.lookup_cons, hne, ih, valuesOf_cons_of_ne hn]

theorem count_valuesOf (name value : String) (pairs : Pairs) :
    (valuesOf name pairs).count value = pairs.count (name, value) := by
  induction pairs with
  | nil => rfl
  | cons p pairs ih =>
    obtain ⟨n, v⟩ := p
    by_cases hn : n = name
    · subst hn
      simp [List.count_cons, ih]
    · simp [valuesOf_cons_of_ne hn, ih, hn]

/-- Pairs with the same values under every name differ in their order at most. -/
theorem perm_of_valuesOf {pairs' : Pairs}
    (h : ∀ name, valuesOf name pairs = valuesOf name pairs') : pairs.Perm pairs' := by
  refine List.perm_iff_count.mpr fun p => ?_
  obtain ⟨name, value⟩ := p
  rw [← count_valuesOf, ← count_valuesOf, h]

theorem valuesOf_eq_nil_iff : valuesOf name pairs = [] ↔ pairs.any (·.1 = name) = false := by
  simp [valuesOf, List.filter_eq_nil_iff]

theorem valuesOf_removeOption_self : valuesOf name (removeOption name pairs) = [] := by
  simp [valuesOf, removeOption, List.filter_filter]

theorem valuesOf_removeOption_of_ne (h : other ≠ name) :
    valuesOf name (removeOption other pairs) = valuesOf name pairs := by
  unfold valuesOf removeOption
  rw [List.filter_filter]
  congr 1
  refine List.filter_congr fun p _ => ?_
  by_cases hp : p.1 = name
  · simp [hp, h.symm]
  · simp [hp]

theorem valuesOf_replace (name other value : String) (pairs : Pairs) :
    valuesOf name (pairs.map fun o => if o.1 = other then (other, value) else o) =
      (valuesOf name pairs).map fun v => if other = name then value else v := by
  induction pairs with
  | nil => rfl
  | cons p pairs ih =>
    obtain ⟨n, v⟩ := p
    by_cases hn : n = name
    · subst hn
      by_cases ho : n = other
      · subst ho
        simp [ih]
      · simp [ih, ho, Ne.symm ho]
    · by_cases ho : n = other
      · subst ho
        simp [ih, valuesOf_cons_of_ne hn, hn]
      · simp [ih, valuesOf_cons_of_ne hn, ho]

/-- What is set in place takes the place of every value; what is new comes last. -/
theorem valuesOf_setOption_self : valuesOf name (setOption name value pairs) =
    if valuesOf name pairs = [] then [value] else (valuesOf name pairs).map fun _ => value := by
  unfold setOption
  by_cases h : valuesOf name pairs = []
  · rw [if_pos h, if_neg (by rw [valuesOf_eq_nil_iff.mp h]; decide)]
    simp [h]
  · rw [if_neg h, if_pos (by rw [← Bool.not_eq_false]; exact mt valuesOf_eq_nil_iff.mpr h),
      valuesOf_replace]
    simp

theorem valuesOf_setOption_of_ne (h : other ≠ name) :
    valuesOf name (setOption other value pairs) = valuesOf name pairs := by
  unfold setOption
  split
  · simp [valuesOf_replace, h]
  · simp [valuesOf_cons_of_ne h]

theorem Query.option?_set (q : Query) (name value : String) :
    (q.set name value).option? name = some value := by
  change (setOption name value q.options).lookup name = some value
  rw [lookup_eq_head?_valuesOf, valuesOf_setOption_self]
  split
  · rfl
  · next h =>
    obtain ⟨v, vs, hvs⟩ := List.exists_cons_of_ne_nil h
    simp [hvs]

end RecordQuery
