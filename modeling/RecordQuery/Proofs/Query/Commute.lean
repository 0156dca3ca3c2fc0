import RecordQuery.Proofs.Query.Slot

/-!
# The order of steps

Steps for different things may be taken in either order: both orders give queries that ask for the
same, with the options in another order at most. A filter that is refused in one order is refused in
the other one, too.
-/
namespace RecordQuery.Query

/-- Queries that ask for the same; their options may come in a different order. -/
structure Alike (q q' : Query) : Prop where
  headers : q.headers = q'.headers
  keyPath : q.keyPath = q'.keyPath
  localFilter : q.localFilter = q'.localFilter
  limit : q.limit = q'.limit
  style : q.style = q'.style
  clause : ∃ clause, q.clause = .ok clause ∧ q'.clause = .ok clause
  option : ∀ name, q.option? name = q'.option? name
  pairs : ∃ pairs pairs', q.pairs = .ok pairs ∧ q'.pairs = .ok pairs' ∧ pairs.Perm pairs'

variable {q q' : Query}

/-- Two queries with the same in every slot are alike, provided that one of them has a clause. -/
theorem alike_of_part (h : ∀ k, q.part k = q'.part k) {clause : Option String}
    (hclause : q.clause = .ok clause) : q.Alike q' := by
  have hentity : q.entity = q'.entity := (Part.source.inj (h .source)).1
  have hstyle : q.style = q'.style := Part.style.inj (h .style)
  have hkeys : q.keys = q'.keys := Part.key.inj (h .key)
  have hsize : q.pageSize = q'.pageSize := Part.pageSize.inj (h .pageSize)
  have hcompany : q.crossCompany = q'.crossCompany := Part.crossCompany.inj (h .crossCompany)
  have hvalues (name : String) : valuesOf name q.options = valuesOf name q'.options :=
    (part_option_iff.mp (h (.option name))).1
  have hfilter : q.serverFilter = q'.serverFilter := by
    have hbasis := (part_option_iff.mp (h (.option filterOption))).2
    rw [basis_filterOption, basis_filterOption] at hbasis
    exact Basis.filter.inj hbasis
  have hclause' : q'.clause = .ok clause := by
    rwa [Query.clause, hfilter, hstyle] at hclause
  exact {
    headers := by rw [Query.headers, Query.headers, hsize]
    keyPath := by rw [Query.keyPath, Query.keyPath, hkeys, hentity, hstyle]
    localFilter := Part.localFilter.inj (h .localFilter)
    limit := Part.limit.inj (h .limit)
    style := hstyle
    clause := ⟨clause, hclause, hclause'⟩
    option := fun name => by
      rw [option?, option?, lookup_eq_head?_valuesOf, lookup_eq_head?_valuesOf, hvalues]
    pairs := by
      refine ⟨_, _, pairs_eq hclause, pairs_eq hclause', ?_⟩
      rw [hcompany]
      exact (perm_of_valuesOf hvalues).append_left _ }

theorem isOk_apply (s : Step) (ha : q.aliases = q'.aliases) :
    (q.apply s).isOk = (q'.apply s).isOk := by
  cases s with
  | filter p =>
    have hiff : (∃ r, q.filter p = .ok r) ↔ ∃ r, q'.filter p = .ok r := by
      rw [exists_filter_ok_iff, exists_filter_ok_iff, ha]
    simp only [apply]
    cases hf : q.filter p <;> cases hf' : q'.filter p <;> simp_all [Except.isOk, Except.toBool]
  | filterLocal | select | expand | orderBy | skip | top | count | option | limit | pageSize | key
  | crossCompany | style => rfl

/-- Of two steps for different things, neither notices the other one. -/
theorem part_applyOrKeep_comm (q : Query) {s t : Step} (h : s.slot ≠ t.slot) (k : Slot) :
    ((q.applyOrKeep s).applyOrKeep t).part k = ((q.applyOrKeep t).applyOrKeep s).part k := by
  -- seen from the slot of one step, the other step is not there
  have hfirst {s t : Step} (h : s.slot ≠ t.slot) :
      ((q.applyOrKeep s).applyOrKeep t).part s.slot =
        ((q.applyOrKeep t).applyOrKeep s).part s.slot :=
    calc ((q.applyOrKeep s).applyOrKeep t).part s.slot
      _ = (q.applyOrKeep s).part s.slot := part_applyOrKeep_of_ne _ t h
      _ = ((q.applyOrKeep t).applyOrKeep s).part s.slot :=
        part_applyOrKeep_congr s (q.sets_applyOrKeep t).aliases.symm
          (part_applyOrKeep_of_ne q t h).symm
  by_cases hs : k = s.slot
  · rw [hs]
    exact hfirst h
  · by_cases ht : k = t.slot
    · rw [ht]
      exact (hfirst h.symm).symm
    · rw [part_applyOrKeep_of_ne _ t ht, part_applyOrKeep_of_ne _ s hs,
        part_applyOrKeep_of_ne _ s hs, part_applyOrKeep_of_ne _ t ht]

theorem exists_clause_applyAll (entity : String) (aliases : Aliases) (steps : List Step) :
    ∃ clause, (applyAll { entity, aliases } steps).clause = .ok clause := by
  have hstart : Holds { entity, aliases } none := .unfiltered rfl rfl
  obtain ⟨clause, _, hclause, -, -⟩ := (hstart.applyAll steps).exists_pairs
  exact ⟨clause, hclause⟩

/-- However a query was put together, two more steps for different things can be taken in either
order. -/
theorem applyOrKeep_comm (entity : String) (aliases : Aliases) (before : List Step) {s t : Step}
    (h : s.slot ≠ t.slot) :
    let q : Query := applyAll { entity, aliases } before
    Alike ((q.applyOrKeep s).applyOrKeep t) ((q.applyOrKeep t).applyOrKeep s) ∧
      ((q.applyOrKeep t).apply s).isOk = (q.apply s).isOk ∧
      ((q.applyOrKeep s).apply t).isOk = (q.apply t).isOk := by
  intro q
  obtain ⟨clause, hclause⟩ := exists_clause_applyAll entity aliases (before ++ [s] ++ [t])
  rw [applyAll_snoc, applyAll_snoc] at hclause
  exact ⟨alike_of_part (part_applyOrKeep_comm q h) hclause,
    isOk_apply s (q.sets_applyOrKeep t).aliases, isOk_apply t (q.sets_applyOrKeep s).aliases⟩

/-- A filter that takes the place of a text, and the style that its clause is written in. -/
theorem applyOrKeep_comm_style :
    let aliases := Aliases.ofList [("blocked", "Blocked")]
    let q : Query :=
      applyAll { entity := "Customers", aliases } [.option filterOption "A eq 1", .top 5]
    let s := Step.filter (.compare .eq (.ofPath "blocked") (.literal (.boolean true)))
    let t := Step.style (.labels "Entities.NoYes" "Yes" "No")
    s.slot ≠ t.slot ∧
      Alike ((q.applyOrKeep s).applyOrKeep t) ((q.applyOrKeep t).applyOrKeep s) ∧
      ((q.applyOrKeep s).applyOrKeep t).pairs =
        .ok [(filterOption, "Blocked eq Entities.NoYes'Yes'"), (topOption, "5")] := by
  intro aliases q s t
  have hslot : s.slot ≠ t.slot := by decide
  exact ⟨hslot, (applyOrKeep_comm "Customers" aliases _ hslot).1, by cbv⟩

end RecordQuery.Query
