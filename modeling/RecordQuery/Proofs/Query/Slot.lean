import RecordQuery.Proofs.Query.Steps

/-!
# Slots of a query

Every step is for one thing: an option of one name, the local predicate, the limit, the page size,
the key, the company scope or the style. It leaves the rest of the query alone, and what it makes of
its own part depends on that part and the aliases only, which never change.
-/
namespace RecordQuery.Query

/-- What a step is for. The steps that write an option share its slot with the option given as it
is. No step is for the source of the records, their entity and its aliases. -/
inductive Slot where
  | source
  | option (name : String)
  | localFilter
  | limit
  | pageSize
  | key
  | crossCompany
  | style
  deriving DecidableEq

def Step.slot : Step → Slot
  | .filter _ => .option filterOption
  | .filterLocal _ => .localFilter
  | .select _ => .option selectOption
  | .expand .. => .option expandOption
  | .orderBy .. => .option orderOption
  | .skip _ => .option skipOption
  | .top _ => .option topOption
  | .count => .option countOption
  | .option name _ => .option name
  | .limit _ => .limit
  | .pageSize _ => .pageSize
  | .key .. => .key
  | .crossCompany _ => .crossCompany
  | .style _ => .style

/-- What an option is rendered from, if it is not just a text. -/
inductive Basis where
  | plain
  | filter (p : Option Predicate)
  | expansions (es : List Expansion)
  | ordering (terms : List String)

def basis (q : Query) (name : String) : Basis :=
  if name = filterOption then .filter q.serverFilter
  else if name = expandOption then .expansions q.expansions
  else if name = orderOption then .ordering q.ordering
  else .plain

/-- What a query has in a slot. -/
inductive Part where
  | source (entity : String) (aliases : Aliases)
  | option (values : List String) (basis : Basis)
  | localFilter (p : Option Predicate)
  | limit (n : Option Nat)
  | pageSize (n : Option Nat)
  | key (keys : List (String × Literal))
  | crossCompany (enabled : Bool)
  | style (style : BooleanStyle)

def part (q : Query) : Slot → Part
  | .source => .source q.entity q.aliases
  | .option name => .option (valuesOf name q.options) (q.basis name)
  | .localFilter => .localFilter q.localFilter
  | .limit => .limit q.limit
  | .pageSize => .pageSize q.pageSize
  | .key => .key q.keys
  | .crossCompany => .crossCompany q.crossCompany
  | .style => .style q.style

variable {q q' : Query} {k : Slot} {name : String}

theorem part_option_iff : q.part (.option name) = q'.part (.option name) ↔
    valuesOf name q.options = valuesOf name q'.options ∧ q.basis name = q'.basis name := by
  simp [part]

theorem basis_filterOption (q : Query) : q.basis filterOption = .filter q.serverFilter := if_pos rfl

theorem basis_expandOption (q : Query) : q.basis expandOption = .expansions q.expansions := by
  rw [basis, if_neg (by decide), if_pos rfl]

theorem basis_orderOption (q : Query) : q.basis orderOption = .ordering q.ordering := by
  rw [basis, if_neg (by decide), if_neg (by decide), if_pos rfl]

/-- Options, and what they are rendered from, may change under one name without any other slot
noticing. -/
theorem part_eq_of_ne (h : k ≠ .option name) {options : Pairs} {p : Option Predicate}
    {es : List Expansion} {terms : List String}
    (hvalues : ∀ other, name ≠ other → valuesOf other options = valuesOf other q.options)
    (hbasis : ∀ other, name ≠ other →
      basis { q with serverFilter := p, expansions := es, ordering := terms } other =
        q.basis other) :
    part { q with options, serverFilter := p, expansions := es, ordering := terms } k =
      q.part k := by
  cases k with
  | option other =>
    have hne : name ≠ other := fun he => h (congrArg Slot.option he.symm)
    exact part_option_iff.mpr ⟨hvalues other hne, hbasis other hne⟩
  | source | localFilter | limit | pageSize | key | crossCompany | style => rfl

theorem part_set_of_ne (h : k ≠ .option name) (value : String) :
    (q.set name value).part k = q.part k :=
  part_eq_of_ne h (fun _ => valuesOf_setOption_of_ne) fun _ _ => rfl

/-- Whether a predicate is accepted does not depend on the query, but for the aliases. -/
theorem exists_filter_ok_iff (q : Query) (p : Predicate) :
    (∃ q', q.filter p = .ok q') ↔ Clause.Accepted (p.rename q.aliases) := by
  constructor
  · rintro ⟨q', h⟩
    obtain ⟨⟨clause, hclause⟩, -⟩ := filter_eq_ok_iff.mp h
    obtain ⟨text, ht, -⟩ := map_eq_ok_iff.mp hclause
    exact .of_chars ht
  · intro h
    exact ⟨_, filter_eq_ok_iff.mpr ⟨h.exists_clause q.style, rfl⟩⟩

theorem applyOrKeep_filter_of_accepted {p : Predicate}
    (h : Clause.Accepted (p.rename q.aliases)) : q.applyOrKeep (.filter p) = { q with
      options := removeOption filterOption q.options
      serverFilter := some (p.rename q.aliases) } := by
  have hf := filter_eq_ok_iff.mpr ⟨h.exists_clause q.style, rfl⟩
  simp only [applyOrKeep, apply, hf]

theorem applyOrKeep_filter_of_refused {p : Predicate}
    (h : ¬Clause.Accepted (p.rename q.aliases)) : q.applyOrKeep (.filter p) = q := by
  simp only [applyOrKeep, apply]
  cases hf : q.filter p with
  | error e => rfl
  | ok q' => exact absurd ((exists_filter_ok_iff q p).mp ⟨q', hf⟩) h

/-- A step leaves every other slot alone. -/
theorem part_applyOrKeep_of_ne (q : Query) (s : Step) (h : k ≠ s.slot) :
    (q.applyOrKeep s).part k = q.part k := by
  cases s with
  | filter p =>
    by_cases hp : Clause.Accepted (p.rename q.aliases)
    · rw [applyOrKeep_filter_of_accepted hp]
      refine part_eq_of_ne h (fun _ => valuesOf_removeOption_of_ne) fun _ hne => ?_
      simp only [basis, if_neg hne.symm]
    · rw [applyOrKeep_filter_of_refused hp]
  | select fields =>
    change (q.select fields).part k = q.part k
    unfold Query.select
    split
    · exact part_eq_of_ne h (fun _ => valuesOf_removeOption_of_ne) fun _ _ => rfl
    · exact part_set_of_ne h _
  | expand navigation selection =>
    refine part_eq_of_ne (q := q) h (fun _ => valuesOf_setOption_of_ne) fun _ hne => ?_
    simp only [basis, if_neg hne.symm]
  | orderBy field descending =>
    refine part_eq_of_ne (q := q) h (fun _ => valuesOf_setOption_of_ne) fun _ hne => ?_
    simp only [basis, if_neg hne.symm]
  | skip | top | count => exact part_set_of_ne h _
  | option name value =>
    refine part_eq_of_ne (q := q) h (fun _ => valuesOf_setOption_of_ne) fun other hne => ?_
    by_cases hname : name = filterOption
    · simp only [basis, if_neg (hname ▸ hne.symm)]
    · rw [if_neg hname]
  | key name value =>
    change (q.key name value).part k = q.part k
    rw [key_eq]
    cases k <;> try rfl
    exact absurd rfl h
  | filterLocal | limit | pageSize | crossCompany | style =>
    -- each of these sets one field, and that is the whole of its slot
    cases k <;> try rfl
    exact absurd rfl h

theorem part_set_congr (h : q.part (.option name) = q'.part (.option name)) (value : String) :
    (q.set name value).part (.option name) = (q'.set name value).part (.option name) := by
  obtain ⟨hvalues, hbasis⟩ := part_option_iff.mp h
  refine part_option_iff.mpr ⟨?_, hbasis⟩
  simp only [set, valuesOf_setOption_self, hvalues]

/-- What a step makes of its slot depends on the slot only. -/
theorem part_applyOrKeep_congr (s : Step) (ha : q.aliases = q'.aliases)
    (h : q.part s.slot = q'.part s.slot) :
    (q.applyOrKeep s).part s.slot = (q'.applyOrKeep s).part s.slot := by
  cases s with
  | filter p =>
    by_cases hp : Clause.Accepted (p.rename q.aliases)
    · rw [applyOrKeep_filter_of_accepted hp, applyOrKeep_filter_of_accepted (ha ▸ hp), ha]
      refine part_option_iff.mpr ⟨?_, ?_⟩
      · simp only [valuesOf_removeOption_self]
      · simp only [basis_filterOption]
    · rwa [applyOrKeep_filter_of_refused hp, applyOrKeep_filter_of_refused (ha ▸ hp)]
  | select fields =>
    change (q.select fields).part _ = (q'.select fields).part _
    unfold Query.select
    split
    · refine part_option_iff.mpr ⟨?_, (part_option_iff.mp h).2⟩
      simp only [valuesOf_removeOption_self]
    · rw [ha]
      exact part_set_congr h _
  | expand navigation selection =>
    obtain ⟨hvalues, hbasis⟩ := part_option_iff.mp h
    rw [basis_expandOption, basis_expandOption, Basis.expansions.injEq] at hbasis
    change (q.expand navigation selection).part _ = (q'.expand navigation selection).part _
    unfold Query.expand
    rw [hbasis, ha]
    refine part_set_congr (part_option_iff.mpr ?_) _
    exact ⟨hvalues, by rw [basis_expandOption, basis_expandOption]⟩
  | orderBy field descending =>
    obtain ⟨hvalues, hbasis⟩ := part_option_iff.mp h
    rw [basis_orderOption, basis_orderOption, Basis.ordering.injEq] at hbasis
    change (q.orderBy field descending).part _ = (q'.orderBy field descending).part _
    unfold Query.orderBy
    rw [hbasis, ha]
    refine part_set_congr (part_option_iff.mpr ?_) _
    exact ⟨hvalues, by rw [basis_orderOption, basis_orderOption]⟩
  | skip | top | count => exact part_set_congr h _
  | option name value =>
    obtain ⟨hvalues, hbasis⟩ := part_option_iff.mp h
    change (q.option name value).part _ = (q'.option name value).part _
    unfold Query.option
    refine part_set_congr (part_option_iff.mpr ?_) _
    by_cases hname : name = filterOption
    · subst hname
      exact ⟨hvalues, by simp only [basis_filterOption, if_true]⟩
    · simp only [if_neg hname]
      exact ⟨hvalues, hbasis⟩
  | key name value =>
    have hkeys : q.keys = q'.keys := Part.key.inj h
    change (q.key name value).part .key = (q'.key name value).part .key
    rw [key_eq, key_eq, hkeys, ha]
    rfl
  | filterLocal p => exact congrArg (fun a => Part.localFilter (some (p.rename a))) ha
  | limit | pageSize | crossCompany | style => rfl

end RecordQuery.Query
