import RecordQuery.Proofs.Query.Slot

/-!
# The names of the options that are sent

No two options of a query have one name, and the company scope and the filter clause stand in front
of them. The exceptions are a company scope and a filter that were given as plain options: these
keep the places that any option would have.
-/
namespace RecordQuery

/-- Every name once, the company scope in front, and the filter in front or right behind it. -/
@[mk_iff isOrderly_iff]
structure IsOrderly (names : List String) : Prop where
  distinct : names.Nodup
  scope : Query.crossCompanyOption ∈ names → names.head? = some Query.crossCompanyOption
  filter : Query.filterOption ∈ names → names.head? = some Query.filterOption ∨
    names.take 2 = [Query.crossCompanyOption, Query.filterOption]

instance : DecidablePred IsOrderly := fun names => decidable_of_iff' _ (isOrderly_iff names)

variable {name value : String} {pairs : Pairs}

theorem mem_names_iff : name ∈ pairs.map Prod.fst ↔ valuesOf name pairs ≠ [] := by
  rw [Ne, valuesOf_eq_nil_iff]
  simp

theorem nodup_names_setOption (h : (pairs.map Prod.fst).Nodup) (name value : String) :
    ((setOption name value pairs).map Prod.fst).Nodup := by
  rw [setOption_eq, map_putByKey]
  split
  · exact h
  · next hname => exact h.append (List.nodup_singleton name) (by simpa using hname)

theorem nodup_names_removeOption (h : (pairs.map Prod.fst).Nodup) (name : String) :
    ((removeOption name pairs).map Prod.fst).Nodup :=
  (List.filter_sublist.map _).nodup h

namespace Query

variable {q : Query} {company filtered : Bool} {names : List String}

/-- The names in front of the options. -/
def front (company filtered : Bool) : List String :=
  (if company then [crossCompanyOption] else []) ++ (if filtered then [filterOption] else [])

theorem nodup_front_append_iff (h : names.Nodup) (hfilter : filtered → filterOption ∉ names) :
    (front company filtered ++ names).Nodup ↔ ¬(company ∧ crossCompanyOption ∈ names) := by
  have hne : crossCompanyOption ≠ filterOption := by decide
  cases company <;> cases filtered <;> simp_all [front]

/-- Names behind the front are in order, unless one of them belongs into the front. -/
theorem isOrderly_front_append_iff (h : names.Nodup)
    (hfilter : filtered → filterOption ∉ names) :
    IsOrderly (front company filtered ++ names) ↔
      (crossCompanyOption ∈ names →
        company = false ∧ filtered = false ∧ names.head? = some crossCompanyOption) ∧
      (filterOption ∈ names → names.head? = some filterOption ∨
        company = false ∧ names.take 2 = [crossCompanyOption, filterOption]) := by
  have hne : crossCompanyOption ≠ filterOption := by decide
  rw [isOrderly_iff, nodup_front_append_iff h hfilter]
  cases company with
  | true =>
    cases filtered with
    | true => simp [front, hfilter rfl]
    | false => cases names <;> simp [front, hne, hne.symm]
  | false =>
    cases filtered with
    | true => simp [front, hne, hne.symm, hfilter rfl]
    | false => simp [front]

theorem nodup_names_applyOrKeep (h : (q.options.map Prod.fst).Nodup) (s : Step) :
    ((q.applyOrKeep s).options.map Prod.fst).Nodup := by
  cases s with
  | filter p =>
    by_cases hp : Clause.Accepted (p.rename q.aliases)
    · rw [applyOrKeep_filter_of_accepted hp]
      exact nodup_names_removeOption h _
    · rwa [applyOrKeep_filter_of_refused hp]
  | select fields =>
    change ((q.select fields).options.map Prod.fst).Nodup
    unfold Query.select
    split
    · exact nodup_names_removeOption h _
    · exact nodup_names_setOption h _ _
  | expand | orderBy | skip | top | count | option => exact nodup_names_setOption h _ _
  | key name value =>
    change ((q.key name value).options.map Prod.fst).Nodup
    rwa [key_eq]
  | filterLocal | limit | pageSize | crossCompany | style => exact h

theorem nodup_names_applyAll (h : (q.options.map Prod.fst).Nodup) (steps : List Step) :
    ((q.applyAll steps).options.map Prod.fst).Nodup := by
  induction steps generalizing q with
  | nil => exact h
  | cons s steps ih => exact ih (nodup_names_applyOrKeep h s)

/-- No other step writes the option of the company scope. -/
theorem eq_option_of_slot {s : Step} (h : s.slot = .option crossCompanyOption) :
    ∃ value, s = .option crossCompanyOption value := by
  cases s with
  | option name value =>
    obtain rfl := Slot.option.inj h
    exact ⟨value, rfl⟩
  | filter | select | expand | orderBy | skip | top | count =>
    exact absurd (Slot.option.inj h) (by decide)
  | filterLocal | limit | pageSize | key | crossCompany | style => contradiction

theorem scope_mem_applyOrKeep_iff (q : Query) (s : Step) :
    crossCompanyOption ∈ (q.applyOrKeep s).options.map Prod.fst ↔
      crossCompanyOption ∈ q.options.map Prod.fst ∨
        ∃ value, s = .option crossCompanyOption value := by
  by_cases hslot : s.slot = .option crossCompanyOption
  · obtain ⟨value, rfl⟩ := eq_option_of_slot hslot
    change crossCompanyOption ∈ (setOption crossCompanyOption value q.options).map Prod.fst ↔ _
    rw [setOption_eq, map_putByKey]
    split <;> simp_all
  · have hvalues := (part_option_iff.mp (part_applyOrKeep_of_ne q s (Ne.symm hslot))).1
    have hother : ¬∃ value, s = .option crossCompanyOption value := by
      rintro ⟨value, rfl⟩
      exact hslot rfl
    simp only [mem_names_iff, hvalues, hother, or_false]

theorem scope_mem_applyAll_iff (q : Query) (steps : List Step) :
    crossCompanyOption ∈ (q.applyAll steps).options.map Prod.fst ↔
      crossCompanyOption ∈ q.options.map Prod.fst ∨
        ∃ value, Step.option crossCompanyOption value ∈ steps := by
  induction steps generalizing q with
  | nil => simp [applyAll]
  | cons s steps ih =>
    rw [applyAll_cons, ih, scope_mem_applyOrKeep_iff]
    simp only [List.mem_cons, exists_or, or_assoc, eq_comm]

/-- A filter is among the options exactly if it is held as a text. -/
theorem Holds.filter_mem_iff {source : Option FilterSource} (h : q.Holds source) :
    filterOption ∈ q.options.map Prod.fst ↔ ∃ clause, source = some (.verbatim clause) := by
  rw [mem_names_iff]
  cases h with
  | unfiltered _ noValue => simp [noValue]
  | predicate _ _ noValue => simp [noValue]
  | verbatim _ held => simp [held]

theorem Holds.not_filter_mem {source : Option FilterSource} (h : q.Holds source)
    (hheld : q.serverFilter.isSome) : filterOption ∉ q.options.map Prod.fst := by
  rw [mem_names_iff, not_not]
  cases h with
  | unfiltered noPredicate | verbatim noPredicate => simp [noPredicate] at hheld
  | predicate _ _ noValue => exact noValue

theorem isSome_clause {clause : Option String} (h : q.clause = .ok clause) :
    clause.isSome = q.serverFilter.isSome := by
  unfold Query.clause at h
  cases hp : q.serverFilter with
  | none =>
    rw [hp] at h
    obtain rfl := Except.ok.inj h
    rfl
  | some p =>
    rw [hp] at h
    obtain ⟨text, -, rfl⟩ := map_eq_ok_iff.mp h
    rfl

/-- What is sent: the company scope, the filter clause and the options, as far as they are there. -/
theorem names_pairs {clause : Option String} {pairs : Pairs} (hclause : q.clause = .ok clause)
    (hpairs : q.pairs = .ok pairs) : pairs.map Prod.fst =
      front q.crossCompany q.serverFilter.isSome ++ q.options.map Prod.fst := by
  rw [pairs_eq hclause] at hpairs
  rw [← Except.ok.inj hpairs, ← isSome_clause hclause]
  cases clause <;> cases q.crossCompany <;> simp [front]

/-- A filter that was given last as a text was given so by a step. -/
theorem exists_option_of_lastGiven? {steps : List Step} {clause : String}
    (h : q.lastGiven? steps = some (.verbatim clause)) :
    ∃ value, Step.option filterOption value ∈ steps := by
  induction steps generalizing q with
  | nil => simp [lastGiven?] at h
  | cons s steps ih =>
    rw [lastGiven?, Option.or_eq_some_iff] at h
    obtain hrest | ⟨-, hs⟩ := h
    · obtain ⟨value, hvalue⟩ := ih hrest
      exact ⟨value, List.mem_cons_of_mem s hvalue⟩
    · cases s with
      | option name value =>
        simp only [given?] at hs
        split at hs
        · next hname => exact ⟨value, hname ▸ List.mem_cons_self⟩
        · contradiction
      | filter p =>
        simp only [given?] at hs
        split at hs <;> simp at hs
      | _ => contradiction

/-- The options of a query have different names however it was put together, unless the company
scope was both asked for and given as a plain option. They are in order unless such a scope or a
filter that was given as a plain option has another place than the one it should have. -/
theorem names_applyAll (entity : String) (aliases : Aliases) (steps : List Step) :
    let start : Query := { entity, aliases }
    let q := start.applyAll steps
    let plain := q.options.map Prod.fst
    ∃ pairs, q.pairs = .ok pairs ∧
      ((pairs.map Prod.fst).Nodup ↔
        ¬(q.crossCompany ∧ ∃ value, Step.option crossCompanyOption value ∈ steps)) ∧
      (IsOrderly (pairs.map Prod.fst) ↔
        ((∃ value, Step.option crossCompanyOption value ∈ steps) →
          q.crossCompany = false ∧ q.serverFilter = none ∧
            plain.head? = some crossCompanyOption) ∧
        ((∃ clause, start.lastGiven? steps = some (.verbatim clause)) →
          plain.head? = some filterOption ∨
            q.crossCompany = false ∧ plain.take 2 = [crossCompanyOption, filterOption])) ∧
      ((∀ name value, Step.option name value ∈ steps →
        name ≠ crossCompanyOption ∧ name ≠ filterOption) → IsOrderly (pairs.map Prod.fst)) := by
  intro start q plain
  have hq : q.Holds (start.lastGiven? steps) := by
    have hstart : start.Holds none := .unfiltered rfl rfl
    simpa using hstart.applyAll steps
  obtain ⟨clause, pairs, hclause, hpairs, -⟩ := hq.exists_pairs
  have hstart : start.options.map Prod.fst = [] := rfl
  have hnodup : plain.Nodup := nodup_names_applyAll (hstart ▸ List.nodup_nil) steps
  have hscope : crossCompanyOption ∈ plain ↔
      ∃ value, Step.option crossCompanyOption value ∈ steps := by
    rw [scope_mem_applyAll_iff, hstart]
    simp
  have hfilter : filterOption ∈ plain ↔
      ∃ clause, start.lastGiven? steps = some (.verbatim clause) := hq.filter_mem_iff
  have hheld : q.serverFilter.isSome → filterOption ∉ plain := hq.not_filter_mem
  have horderly : IsOrderly (front q.crossCompany q.serverFilter.isSome ++ plain) ↔ _ :=
    isOrderly_front_append_iff hnodup hheld
  rw [← names_pairs hclause hpairs, hscope, hfilter, Option.isSome_eq_false_iff,
    Option.isNone_iff_eq_none] at horderly
  refine ⟨pairs, hpairs, ?_, horderly, fun h => ?_⟩
  · rw [names_pairs hclause hpairs, nodup_front_append_iff hnodup hheld, hscope]
  · refine horderly.mpr ⟨?_, ?_⟩
    · rintro ⟨value, hvalue⟩
      exact absurd rfl (h _ value hvalue).1
    · rintro ⟨text, htext⟩
      obtain ⟨value, hvalue⟩ := exists_option_of_lastGiven? htext
      exact absurd rfl (h _ value hvalue).2

/-- A filter clause and the company scope, both asked for behind other options. -/
theorem names_applyAll_asked :
    let steps := [Step.top 5, .filter (.isNull (.ofPath "A")), .option "$search" "x",
      .crossCompany true]
    let q : Query := applyAll { entity := "Customers" } steps
    (∀ name value, Step.option name value ∈ steps →
        name ≠ crossCompanyOption ∧ name ≠ filterOption) ∧
      q.pairs = .ok [(crossCompanyOption, "true"), (filterOption, "A eq null"), (topOption, "5"),
        ("$search", "x")] ∧
      ∃ pairs, q.pairs = .ok pairs ∧ IsOrderly (pairs.map Prod.fst) := by
  intro steps q
  have hplain : ∀ name value, Step.option name value ∈ steps →
      name ≠ crossCompanyOption ∧ name ≠ filterOption := by
    simp [steps, crossCompanyOption, filterOption]
  obtain ⟨pairs, hpairs, -, -, horderly⟩ := names_applyAll "Customers" .empty steps
  exact ⟨hplain, by cbv, pairs, hpairs, horderly hplain⟩

/-- A filter given as a plain option stays behind an option that was there before; a company scope
given so is sent a second time. -/
theorem names_out_of_order :
    let q : Query :=
      applyAll { entity := "Customers" } [.top 5, .option filterOption "A eq 1"]
    let q' := q.applyAll [.option crossCompanyOption "true", .crossCompany true]
    q.pairs = .ok [(topOption, "5"), (filterOption, "A eq 1")] ∧
      ¬IsOrderly [topOption, filterOption] ∧
      q'.pairs = .ok [(crossCompanyOption, "true"), (topOption, "5"), (filterOption, "A eq 1"),
        (crossCompanyOption, "true")] ∧
      ¬[crossCompanyOption, topOption, filterOption, crossCompanyOption].Nodup :=
  ⟨by cbv, by decide, by cbv, by decide⟩

end Query

end RecordQuery
