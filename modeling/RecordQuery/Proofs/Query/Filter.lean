import RecordQuery.Proofs.Clause.Accepted
import RecordQuery.Proofs.Query.Options

/-!
# The filter clause of a query

However a query is put together, it has at most one filter clause, and this is the one that was
given last: as a predicate, which is rendered in the style the query has in the end, or as a text.
-/
namespace RecordQuery.Query

inductive FilterSource where
  | predicate (p : Predicate)
  | verbatim (clause : String)

def FilterSource.clause (style : BooleanStyle) : FilterSource → Except Failure String
  | .predicate p => p.clause style
  | .verbatim clause => .ok clause

/-- The filter that a step gives; a predicate that is refused gives none. -/
def given? (q : Query) : Step → Option FilterSource
  | .filter p =>
    match q.filter p with
    | .ok _ => some (.predicate (p.rename q.aliases))
    | .error _ => none
  | .option name value => if name = filterOption then some (.verbatim value) else none
  | .filterLocal _ | .select _ | .expand .. | .orderBy .. | .skip _ | .top _ | .count | .limit _
  | .pageSize _ | .key .. | .crossCompany _ | .style _ => none

/-- The filter that the last step giving one gives. -/
def lastGiven? (q : Query) : List Step → Option FilterSource
  | [] => none
  | s :: rest => (lastGiven? (q.applyOrKeep s) rest).or (q.given? s)

/-- Among some pairs, the clause of the filter is the only value of its option; without a filter,
the option has no value. -/
def FiltersBy (style : BooleanStyle) (pairs : Pairs) : Option FilterSource → Prop
  | none => valuesOf filterOption pairs = []
  | some source =>
    ∃ clause, source.clause style = .ok clause ∧ valuesOf filterOption pairs = [clause]

/-- A query holds its filter in one of two places, and nothing in the other. -/
inductive Holds (q : Query) : Option FilterSource → Prop
  | unfiltered (noPredicate : q.serverFilter = none)
      (noValue : valuesOf filterOption q.options = []) : Holds q none
  | predicate {p : Predicate} (accepted : Clause.Accepted p) (held : q.serverFilter = some p)
      (noValue : valuesOf filterOption q.options = []) : Holds q (some (.predicate p))
  | verbatim {clause : String} (noPredicate : q.serverFilter = none)
      (held : valuesOf filterOption q.options = [clause]) : Holds q (some (.verbatim clause))

variable {q : Query} {source : Option FilterSource}

theorem Holds.congr {q' : Query} (h : q.Holds source) (hs : q'.serverFilter = q.serverFilter)
    (ho : valuesOf filterOption q'.options = valuesOf filterOption q.options) :
    q'.Holds source := by
  cases h with
  | unfiltered noPredicate noValue => exact .unfiltered (hs.trans noPredicate) (ho.trans noValue)
  | predicate accepted held noValue =>
    exact .predicate accepted (hs.trans held) (ho.trans noValue)
  | verbatim noPredicate held => exact .verbatim (hs.trans noPredicate) (ho.trans held)

/-- Setting another option leaves the filter alone. -/
theorem Holds.set {name : String} (h : q.Holds source) (hn : name ≠ filterOption)
    (value : String) : (q.set name value).Holds source :=
  h.congr rfl (valuesOf_setOption_of_ne hn)

theorem Holds.values_or (h : q.Holds source) :
    valuesOf filterOption q.options = [] ∨ ∃ v, valuesOf filterOption q.options = [v] := by
  cases h with
  | unfiltered _ noValue => exact .inl noValue
  | predicate _ _ noValue => exact .inl noValue
  | verbatim _ held => exact .inr ⟨_, held⟩

theorem filter_eq_ok_iff {p : Predicate} {q' : Query} :
    q.filter p = .ok q' ↔ (∃ clause, (p.rename q.aliases).clause q.style = .ok clause) ∧
      q' = { q with
        options := removeOption filterOption q.options
        serverFilter := some (p.rename q.aliases) } := by
  unfold filter
  cases h : (p.rename q.aliases).clause q.style with
  | error e => simp [h, bind, Except.bind]
  | ok clause => simp [h, bind, Except.bind, pure, Except.pure, eq_comm]

theorem holds_filter {p : Predicate} {q' : Query} (h : q.filter p = .ok q') :
    q'.Holds (some (.predicate (p.rename q.aliases))) := by
  obtain ⟨⟨clause, hclause⟩, rfl⟩ := filter_eq_ok_iff.mp h
  obtain ⟨text, ht, -⟩ := map_eq_ok_iff.mp hclause
  exact .predicate (.of_chars ht) rfl valuesOf_removeOption_self

theorem Holds.option (h : q.Holds source) (value : String) :
    (q.option filterOption value).Holds (some (.verbatim value)) := by
  refine .verbatim (by simp [Query.option, Query.set]) ?_
  change valuesOf filterOption (setOption filterOption value q.options) = [value]
  rw [valuesOf_setOption_self]
  rcases h.values_or with hv | ⟨v, hv⟩ <;> simp [hv]

/-- After a step the query holds what the step gives, or else what it held before. -/
theorem Holds.applyOrKeep (h : q.Holds source) (s : Step) :
    (q.applyOrKeep s).Holds ((q.given? s).or source) := by
  cases s with
  | filter p =>
    simp only [Query.applyOrKeep, given?, apply]
    cases hf : q.filter p with
    | error e => exact h
    | ok q' => exact holds_filter hf
  | option name value =>
    by_cases hn : name = filterOption
    · subst hn
      simp only [given?, if_true]
      exact h.option value
    · simp only [given?, if_neg hn]
      exact h.congr (if_neg hn) (valuesOf_setOption_of_ne hn)
  | select fields =>
    change (q.select fields).Holds source
    unfold Query.select
    split
    · exact h.congr rfl (valuesOf_removeOption_of_ne (by decide))
    · exact h.set (by decide) _
  | expand navigation selection =>
    let es := addExpansion ⟨q.aliases.resolve navigation, selection⟩ q.expansions
    have hes : Holds { q with expansions := es } source := h.congr rfl rfl
    have hname : expandOption ≠ filterOption := by decide
    exact hes.set hname _
  | orderBy field descending =>
    let name := q.aliases.resolve field
    let ordering := q.ordering ++ [if descending then name ++ " desc" else name]
    have hordering : Holds { q with ordering } source := h.congr rfl rfl
    have hname : orderOption ≠ filterOption := by decide
    exact hordering.set hname _
  | skip n => exact h.set (by decide) _
  | top n => exact h.set (by decide) _
  | count => exact h.set (by decide) _
  | key name value =>
    change (q.key name value).Holds source
    unfold Query.key
    dsimp only
    split
    · exact h.congr rfl rfl
    · exact h.congr rfl rfl
  | filterLocal | limit | pageSize | crossCompany | style => exact h.congr rfl rfl

/-- After a run the query holds what was given last, or else what it held before. -/
theorem Holds.applyAll (h : q.Holds source) (steps : List Step) :
    (q.applyAll steps).Holds ((q.lastGiven? steps).or source) := by
  induction steps generalizing q source with
  | nil => exact h
  | cons s steps ih =>
    have := ih (h.applyOrKeep s)
    rwa [← Option.or_assoc] at this

/-- Some filter was given last exactly if some step of the run gave one. -/
theorem isSome_lastGiven?_iff (q : Query) (steps : List Step) :
    (q.lastGiven? steps).isSome ↔
      ∃ before s after, steps = before ++ s :: after ∧ ((q.applyAll before).given? s).isSome := by
  induction steps generalizing q with
  | nil => simp [lastGiven?]
  | cons s steps ih =>
    simp only [lastGiven?, Option.isSome_or, Bool.or_eq_true, ih]
    constructor
    · rintro (⟨before, t, after, rfl, ht⟩ | hs)
      · exact ⟨s :: before, t, after, rfl, ht⟩
      · exact ⟨[], s, steps, rfl, hs⟩
    · rintro ⟨before, t, after, he, ht⟩
      cases before with
      | nil =>
        obtain ⟨rfl, rfl⟩ := List.cons.inj he
        exact .inr ht
      | cons u before =>
        obtain ⟨rfl, rfl⟩ := List.cons.inj he
        exact .inl ⟨before, t, after, rfl, ht⟩

theorem pairs_eq {clause : Option String} (h : q.clause = .ok clause) :
    q.pairs = .ok ((if q.crossCompany then [(crossCompanyOption, "true")] else []) ++
      (clause.map (filterOption, ·)).toList ++ q.options) := by
  simp only [pairs, h]
  cases clause <;> rfl

theorem valuesOf_scope (enabled : Bool) : valuesOf filterOption
    (if enabled then [(crossCompanyOption, "true")] else []) = [] := by
  cases enabled <;> decide

theorem exists_filter_iff {style : BooleanStyle} {pairs : Pairs}
    (h : FiltersBy style pairs source) :
    (∃ v, (filterOption, v) ∈ pairs) ↔ source.isSome := by
  simp only [← mem_valuesOf]
  cases source with
  | none =>
    have hnone : valuesOf filterOption pairs = [] := h
    simp [hnone]
  | some source =>
    obtain ⟨text, -, hone⟩ := h
    simp [hone]

/-- What a query holds is what it sends, in the style it has. -/
theorem Holds.exists_pairs (h : q.Holds source) : ∃ clause pairs, q.clause = .ok clause ∧
    q.pairs = .ok pairs ∧ FiltersBy q.style pairs source := by
  cases h with
  | unfiltered noPredicate noValue =>
    have hc : q.clause = .ok none := by simp [Query.clause, noPredicate]
    exact ⟨_, _, hc, pairs_eq hc, by simp [FiltersBy, valuesOf_scope, noValue]⟩
  | predicate accepted held noValue =>
    obtain ⟨text, ht⟩ := accepted.exists_clause q.style
    have hc : q.clause = .ok (some text) := by simp [Query.clause, held, ht, Except.map]
    exact ⟨_, _, hc, pairs_eq hc, text, ht, by simp [valuesOf_scope, noValue]⟩
  | @verbatim text noPredicate held =>
    have hc : q.clause = .ok none := by simp [Query.clause, noPredicate]
    exact ⟨_, _, hc, pairs_eq hc, text, rfl, by simp [valuesOf_scope, held]⟩

/-- A query that holds its filter in one place can be asked for, with this filter. -/
theorem Holds.exists_request (h : q.Holds source) :
    ∃ r, q.collectionRequest = .ok r ∧ FiltersBy q.style r.query source := by
  obtain ⟨_, pairs, -, hpairs, hvalues⟩ := h.exists_pairs
  exact ⟨_, by rw [collectionRequest, hpairs]; rfl, hvalues⟩

/-- A query that is put together by any steps can be rendered, and its options hold one filter
clause if some step gave one, namely the one given last, and none otherwise. -/
theorem filter_applyAll (entity : String) (aliases : Aliases) (steps : List Step) :
    let start : Query := { entity, aliases }
    let q := start.applyAll steps
    ∃ clause pairs path request, q.clause = .ok clause ∧ q.pairs = .ok pairs ∧
      q.path = .ok path ∧ q.collectionRequest = .ok request ∧ request.query = pairs ∧
      ((∃ v, (filterOption, v) ∈ pairs) ↔ ∃ before s after, steps = before ++ s :: after ∧
        ((start.applyAll before).given? s).isSome) ∧
      FiltersBy q.style pairs (start.lastGiven? steps) := by
  intro start q
  have hstart : start.Holds none := .unfiltered rfl rfl
  have hq : q.Holds (start.lastGiven? steps) := by simpa using hstart.applyAll steps
  obtain ⟨clause, pairs, hclause, hpairs, hvalues⟩ := hq.exists_pairs
  have hrequest : q.collectionRequest =
      .ok { method := .get, path := q.entity, query := pairs, headers := q.headers } := by
    unfold collectionRequest
    rw [hpairs]
    rfl
  refine ⟨clause, pairs, _, _, hclause, hpairs, by rw [path, hrequest]; rfl, hrequest, rfl, ?_,
    hvalues⟩
  rw [exists_filter_iff hvalues, isSome_lastGiven?_iff]

end RecordQuery.Query
