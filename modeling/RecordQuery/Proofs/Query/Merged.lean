import RecordQuery.Proofs.Query.Slot

/-!
# Options put together by several steps

Expansions and orderings are collected, and each step writes the option for them anew from all that
was collected so far. Such an option is in step with its entries until it is given as a text; the
text is what is sent, up to the next step that adds an entry.
-/
namespace RecordQuery

/-- Expansions of one navigation replace each other. -/
def mergeExpansions (given : List Expansion) : List Expansion :=
  given.foldl (fun es e => Query.addExpansion e es) []

variable {x : Expansion}

theorem mergeExpansions_snoc (given : List Expansion) (e : Expansion) :
    mergeExpansions (given ++ [e]) = Query.addExpansion e (mergeExpansions given) := by
  simp [mergeExpansions]

/-- One expansion to a navigation, in the order in which these were given first. -/
theorem navigations_mergeExpansions (given : List Expansion) :
    (mergeExpansions given).map (·.navigation) = (given.map (·.navigation)).eraseDups := by
  induction given using List.reverseRecOn with
  | nil => rfl
  | append_singleton given e ih =>
    rw [mergeExpansions_snoc, Query.addExpansion_eq, map_putByKey, ih, List.map_append,
      List.eraseDups_append]
    by_cases h : e.navigation ∈ given.map (·.navigation)
    · rw [if_pos (List.mem_eraseDups.mpr h)]
      simp_all [List.removeAll]
    · rw [if_neg (mt List.mem_eraseDups.mp h)]
      simp_all [List.removeAll, List.eraseDups_cons]

/-- Of the expansions of a navigation, the last one is there. -/
theorem getLast?_of_mem_mergeExpansions {given : List Expansion} (h : x ∈ mergeExpansions given) :
    (given.filter (·.navigation = x.navigation)).getLast? = some x := by
  induction given using List.reverseRecOn with
  | nil => simp [mergeExpansions] at h
  | append_singleton given e ih =>
    rw [mergeExpansions_snoc, Query.addExpansion_eq, mem_putByKey_iff] at h
    rw [List.filter_append]
    obtain rfl | ⟨hx, hne⟩ := h
    · simp
    · simpa [hne.symm] using ih hx

namespace Query

/-- How a step writes an option: from what is collected for it, or as a text. -/
inductive Writing where
  | merged
  | verbatim (text : String)
  deriving DecidableEq

def Writing.text (merged : String) : Writing → String
  | .merged => merged
  | .verbatim text => text

def Step.writing? (name : String) : Step → Option Writing
  | .expand .. => if expandOption = name then some .merged else none
  | .orderBy .. => if orderOption = name then some .merged else none
  | .option other text => if other = name then some (.verbatim text) else none
  | _ => none

/-- How an option was written last. -/
def lastWriting? (name : String) (steps : List Step) : Option Writing :=
  (steps.filterMap (Step.writing? name)).getLast?

/-- The text that collected entries make. -/
def Basis.text : Basis → String
  | .expansions es => ",".intercalate (es.map Expansion.text)
  | .ordering terms => ",".intercalate terms
  | .plain | .filter _ => ""

variable {q : Query} {s : Step} {name : String}

theorem writing?_of_ne (h : s.slot ≠ .option name) : s.writing? name = none := by
  cases s with
  | expand | orderBy | option => exact if_neg fun he => h (congrArg Slot.option he)
  | _ => rfl

/-- A step for a merged option writes it. -/
theorem exists_writing (q : Query) (hname : name = expandOption ∨ name = orderOption)
    (h : s.slot = .option name) : ∃ w, s.writing? name = some w ∧
      (q.applyOrKeep s).option? name = some (w.text ((q.applyOrKeep s).basis name).text) := by
  cases s with
  | expand navigation selection =>
    obtain rfl := Slot.option.inj h
    refine ⟨.merged, by simp [Step.writing?], ?_⟩
    rw [basis_expandOption]
    exact option?_set _ _ _
  | orderBy field descending =>
    obtain rfl := Slot.option.inj h
    refine ⟨.merged, by simp [Step.writing?], ?_⟩
    rw [basis_orderOption]
    exact option?_set _ _ _
  | option other text =>
    obtain rfl := Slot.option.inj h
    exact ⟨.verbatim text, by simp [Step.writing?], option?_set _ _ _⟩
  | filter | select | skip | top | count =>
    obtain rfl := Slot.option.inj h
    exact absurd hname (by decide)
  | filterLocal | limit | pageSize | key | crossCompany | style => contradiction

theorem option?_of_ne (q : Query) (h : s.slot ≠ .option name) :
    (q.applyOrKeep s).option? name = q.option? name ∧
      (q.applyOrKeep s).basis name = q.basis name := by
  obtain ⟨hvalues, hbasis⟩ := part_option_iff.mp (part_applyOrKeep_of_ne q s h.symm)
  rw [option?, option?, lookup_eq_head?_valuesOf, lookup_eq_head?_valuesOf, hvalues]
  exact ⟨rfl, hbasis⟩

/-- A merged option has the text of its entries, unless it was given as a text last. -/
theorem option?_applyAll (hname : name = expandOption ∨ name = orderOption)
    (hq : q.option? name = none) (steps : List Step) :
    (q.applyAll steps).option? name =
      (lastWriting? name steps).map (Writing.text ((q.applyAll steps).basis name).text) := by
  induction steps using List.reverseRecOn with
  | nil => exact hq
  | append_singleton steps s ih =>
    rw [applyAll_snoc, lastWriting?, List.filterMap_append]
    by_cases h : s.slot = .option name
    · obtain ⟨w, hw, hoption⟩ := exists_writing (q.applyAll steps) hname h
      simp [hw, hoption]
    · obtain ⟨hoption, hbasis⟩ := option?_of_ne (q.applyAll steps) h
      simp [writing?_of_ne h, hoption, hbasis, ih, lastWriting?]

/-- The expansion that a step gives, in the names used on the wire. -/
def Step.expansion? (aliases : Aliases) : Step → Option Expansion
  | .expand navigation selection => some ⟨aliases.resolve navigation, selection⟩
  | _ => none

/-- The term of an ordering that a step gives. -/
def Step.term? (aliases : Aliases) : Step → Option String
  | .orderBy field descending =>
    some (if descending then aliases.resolve field ++ " desc" else aliases.resolve field)
  | _ => none

theorem expansions_of_ne (q : Query) (h : s.slot ≠ .option expandOption) :
    (q.applyOrKeep s).expansions = q.expansions := by
  have hbasis := (option?_of_ne q h).2
  rw [basis_expandOption, basis_expandOption] at hbasis
  exact Basis.expansions.inj hbasis

theorem ordering_of_ne (q : Query) (h : s.slot ≠ .option orderOption) :
    (q.applyOrKeep s).ordering = q.ordering := by
  have hbasis := (option?_of_ne q h).2
  rw [basis_orderOption, basis_orderOption] at hbasis
  exact Basis.ordering.inj hbasis

theorem expansions_applyAll (q : Query) (steps : List Step) : (q.applyAll steps).expansions =
    (steps.filterMap (Step.expansion? q.aliases)).foldl (fun es e => addExpansion e es)
      q.expansions := by
  refine applyAll_collects expansions Step.expansion? _ (fun q s => ?_) q steps
  cases s with
  | filter | select | key =>
    exact expansions_of_ne q (by simp [Step.slot, filterOption, selectOption, expandOption])
  | _ => rfl

theorem ordering_applyAll (q : Query) (steps : List Step) : (q.applyAll steps).ordering =
    q.ordering ++ steps.filterMap (Step.term? q.aliases) := by
  rw [applyAll_collects ordering Step.term? (fun terms term => terms ++ [term]) fun q s => ?_]
  · simp [← List.flatMap_def]
  · cases s with
    | filter | select | key =>
      exact ordering_of_ne q (by simp [Step.slot, filterOption, selectOption, orderOption])
    | _ => rfl

/-- What is sent for the collected entries is what they make. -/
@[mk_iff inStep_iff]
structure InStep (q : Query) : Prop where
  expansions : q.expansions ≠ [] →
    q.option? expandOption = some (Basis.expansions q.expansions).text
  ordering : q.ordering ≠ [] → q.option? orderOption = some (Basis.ordering q.ordering).text

/-- Where a step gave an entry, the option was written. -/
theorem lastWriting?_ne_none {α : Type} {given : Step → Option α} {steps : List Step}
    (hgiven : ∀ s a, given s = some a → s.writing? name ≠ none)
    (h : steps.filterMap given ≠ []) : lastWriting? name steps ≠ none := by
  obtain ⟨a, ha⟩ := List.exists_mem_of_ne_nil _ h
  obtain ⟨s, hs, hsa⟩ := List.mem_filterMap.mp ha
  obtain ⟨w, hw⟩ := Option.ne_none_iff_exists'.mp (hgiven s a hsa)
  have hmem : w ∈ steps.filterMap (Step.writing? name) := List.mem_filterMap.mpr ⟨s, hs, hw⟩
  exact fun hnone => List.ne_nil_of_mem hmem (List.getLast?_eq_none_iff.mp hnone)

theorem lastWriting?_of_expansions {steps : List Step} (hq : q.expansions = [])
    (h : (q.applyAll steps).expansions ≠ []) : lastWriting? expandOption steps ≠ none := by
  rw [expansions_applyAll, hq] at h
  have hgiven (s : Step) (e : Expansion) (he : s.expansion? q.aliases = some e) :
      s.writing? expandOption ≠ none := by
    cases s with
    | expand => simp [Step.writing?]
    | _ => contradiction
  refine lastWriting?_ne_none hgiven fun hnil => h ?_
  rw [hnil]
  rfl

theorem lastWriting?_of_ordering {steps : List Step} (hq : q.ordering = [])
    (h : (q.applyAll steps).ordering ≠ []) : lastWriting? orderOption steps ≠ none := by
  rw [ordering_applyAll, hq, List.nil_append] at h
  refine lastWriting?_ne_none (fun s term hterm => ?_) h
  cases s with
  | orderBy => simp [Step.writing?]
  | _ => contradiction

/-- An option that something was collected for has the text of its entries, unless another text was
given for it last. -/
theorem option?_eq_text_iff {steps : List Step} {collected : Prop} {sent : Option String}
    {text : String} (hsent : sent = (lastWriting? name steps).map (Writing.text text))
    (hcollected : collected → lastWriting? name steps ≠ none) :
    (collected → sent = some text) ↔
      ∀ other, lastWriting? name steps = some (.verbatim other) → collected → other = text := by
  constructor
  · intro h other hlast hc
    simpa [hsent, hlast, Writing.text] using h hc
  · intro h hc
    cases hlast : lastWriting? name steps with
    | none => exact absurd hlast (hcollected hc)
    | some w =>
      rw [hsent, hlast]
      cases w with
      | merged => rfl
      | verbatim other => exact congrArg some (h other hlast hc)

/-- Whatever the steps, the collected expansions are one to a navigation, in the order of their first
appearance and with the selections given last, and the terms of the ordering are all that were
given. What is sent for them is the text they make or the text that was given after them; the next
step for them sends what they make with its own entry. -/
theorem merged_applyAll (entity : String) (aliases : Aliases) (steps : List Step) :
    let q : Query := applyAll { entity, aliases } steps
    let given := steps.filterMap (Step.expansion? aliases)
    let expanded := (Basis.expansions q.expansions).text
    let ordered := (Basis.ordering q.ordering).text
    (q.expansions.map (·.navigation) = (given.map (·.navigation)).eraseDups ∧
      ∀ e ∈ q.expansions, (given.filter (·.navigation = e.navigation)).getLast? = some e) ∧
    q.ordering = steps.filterMap (Step.term? aliases) ∧
    q.option? expandOption = (lastWriting? expandOption steps).map (Writing.text expanded) ∧
    q.option? orderOption = (lastWriting? orderOption steps).map (Writing.text ordered) ∧
    (q.InStep ↔
      (∀ text, lastWriting? expandOption steps = some (.verbatim text) → q.expansions ≠ [] →
        text = expanded) ∧
      ∀ text, lastWriting? orderOption steps = some (.verbatim text) → q.ordering ≠ [] →
        text = ordered) ∧
    (∀ navigation selection, (q.expand navigation selection).option? expandOption =
      some (Basis.expansions (addExpansion ⟨aliases.resolve navigation, selection⟩
        q.expansions)).text) ∧
    ∀ field descending, (q.orderBy field descending).option? orderOption =
      some (Basis.ordering (q.ordering ++
        ((Step.orderBy field descending).term? aliases).toList)).text := by
  intro q given expanded ordered
  have haliases : q.aliases = aliases := aliases_applyAll _ steps
  have hgiven : q.expansions = mergeExpansions given := expansions_applyAll _ steps
  have hexpand : q.option? expandOption =
      (lastWriting? expandOption steps).map (Writing.text expanded) := by
    rw [option?_applyAll (.inl rfl) rfl, basis_expandOption]
  have horder : q.option? orderOption =
      (lastWriting? orderOption steps).map (Writing.text ordered) := by
    rw [option?_applyAll (.inr rfl) rfl, basis_orderOption]
  refine ⟨⟨?_, ?_⟩, ordering_applyAll _ steps, hexpand, horder, ?_, ?_, ?_⟩
  · rw [hgiven, navigations_mergeExpansions]
  · exact fun e he => getLast?_of_mem_mergeExpansions (hgiven ▸ he)
  · rw [inStep_iff, option?_eq_text_iff hexpand (lastWriting?_of_expansions rfl),
      option?_eq_text_iff horder (lastWriting?_of_ordering rfl)]
  · intro navigation selection
    rw [← haliases]
    exact option?_set _ _ _
  · intro field descending
    rw [← haliases]
    exact option?_set _ _ _

/-- A navigation that is expanded again, and an ordering that follows a text. -/
theorem merged_applyAll_again :
    let steps := [Step.expand "Customer" [], .option orderOption "Name",
      .expand "Lines" ["ItemId", "Qty"], .orderBy "Id" true, .expand "Customer" ["Name"]]
    let q : Query := applyAll { entity := "SalesOrders" } steps
    (∀ text, lastWriting? expandOption steps ≠ some (.verbatim text)) ∧ q.InStep ∧
      q.option? expandOption = some "Customer($select=Name),Lines($select=ItemId,Qty)" ∧
      q.option? orderOption = some "Id desc" := by
  intro steps q
  have hexpand : lastWriting? expandOption steps = some .merged := by decide
  have horder : lastWriting? orderOption steps = some .merged := by decide
  obtain ⟨-, -, hexpanded, hordered, hstep, -, -⟩ := merged_applyAll "SalesOrders" .empty steps
  refine ⟨by simp [hexpand], hstep.mpr (by simp [hexpand, horder]), ?_, ?_⟩
  · exact hexpanded.trans (by rw [hexpand]; decide)
  · exact hordered.trans (by rw [horder]; decide)

/-- A text takes the place of what was collected; the next expansion drops it and brings back what
was replaced. -/
theorem text_dropped_by_expansion :
    let q : Query :=
      applyAll { entity := "SalesOrders" } [.expand "Customer" [], .option expandOption "Lines"]
    q.option? expandOption = some "Lines" ∧ ¬q.InStep ∧
      (q.expand "Site" []).option? expandOption = some "Customer,Site" := by
  refine ⟨by decide, fun h => ?_, by decide⟩
  exact absurd (h.expansions (by decide)) (by decide)

end Query

end RecordQuery
