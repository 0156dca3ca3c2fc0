import RecordQuery.Proofs.Predicate.PathText
import RecordQuery.Proofs.Query.Filter

/-!
# Names on the wire

A filter replaces a name segment by segment, every other step as a whole. Both ways agree on every
name of one segment. On a longer name without an alias of its own they agree only if none of its
segments has an alias, either.
-/
namespace RecordQuery

namespace Aliases

variable {a : Aliases} {name : String}

theorem chars_resolvePath (a : Aliases) (p : Path) : (a.resolvePath p).chars =
    ['/'].intercalate (p.segments.map fun s => (a.resolve s).toList) := by
  simp [Path.chars, resolvePath, Function.comp_def]

/-- Replacing segments leaves the text as it was only if it leaves every segment as it was: what
comes in place of a segment cannot have further slashes in it without changing their number. -/
theorem text_resolvePath_ofText_iff (a : Aliases) (name : String) :
    (a.resolvePath (.ofText name)).text = name ↔
      ∀ s ∈ (Path.ofText name).segments, a.resolve s = s := by
  have hname : (Path.ofText name).text = name := Path.text_ofText name
  constructor
  · intro h
    have hchars : (a.resolvePath (.ofText name)).chars = (Path.ofText name).chars :=
      String.ofList_injective (h.trans hname.symm)
    rw [chars_resolvePath, Path.chars] at hchars
    have hplain : ∀ s ∈ (Path.ofText name).segments.map String.toList, '/' ∉ s := by
      simpa using (Path.isPlain_ofText name).1
    have hsegments := Text.fields_eq_of_intercalate_eq (by simp) hplain hchars
    intro s hs
    exact String.toList_inj.mp (List.map_inj_left.mp hsegments s hs)
  · intro h
    have hpath : a.resolvePath (.ofText name) = .ofText name := by
      rw [resolvePath, List.map_congr_left h]
      simp
    rw [hpath, hname]

/-- A name of one segment is replaced alike as a segment and as a whole. -/
theorem text_resolvePath_segment (a : Aliases) (hne : name ≠ "") (hplain : '/' ∉ name.toList) :
    (a.resolvePath (.ofText name)).text = a.resolve name := by
  have htext (s : String) : (Path.mk [s]).text = s := by
    simp [Path.text, Path.chars]
  have hpath : Path.ofText name = ⟨[name]⟩ := by
    have hsegment : (Path.mk [name]).IsPlain := ⟨by simpa using hplain, by simpa using hne⟩
    simpa only [htext] using Path.ofText_text_of_isPlain hsegment
  rw [hpath]
  exact htext (a.resolve name)

theorem isCurrent_resolvePath (a : Aliases) (hne : name ≠ "") :
    (a.resolvePath (.ofText name)).isCurrent = false := by
  have hempty : ¬name.isEmpty := by simpa using hne
  rw [Path.ofText, if_neg hempty]
  simp [resolvePath, Path.isCurrent, List.splitOn_ne_nil]

end Aliases

namespace Query

/-- What the steps that name something write for a name, filters apart. -/
structure Writes (q : Query) (name wire : String) : Prop where
  select : ∀ before after, (q.select (before ++ name :: after)).option? selectOption =
    some (",".intercalate (before.map q.aliases.resolve ++ wire :: after.map q.aliases.resolve))
  expand : ∀ selection, ∃ before after, (q.expand name selection).option? expandOption =
    some (",".intercalate (before ++ Expansion.text ⟨wire, selection⟩ :: after))
  orderBy : ∀ descending, (q.orderBy name descending).option? orderOption =
    some (",".intercalate (q.ordering ++ [if descending then wire ++ " desc" else wire]))
  key : ∀ value, ∃ before after, (q.key name value).keyPath =
    .ok (q.entity ++ String.ofList (Key.segment q.style (before ++ (wire, value) :: after)))

variable {q : Query} {name wire : String}

theorem option?_select (q : Query) {fields : List String} (hne : fields ≠ []) :
    (q.select fields).option? selectOption =
      some (",".intercalate (fields.map q.aliases.resolve)) := by
  have hempty : ¬fields.isEmpty := by simpa using hne
  rw [Query.select, if_neg hempty]
  exact option?_set _ _ _

theorem writes_resolve (q : Query) (name : String) : q.Writes name (q.aliases.resolve name) where
  select before after := by
    rw [option?_select q (by simp)]
    simp
  expand selection := by
    have hmem : ⟨q.aliases.resolve name, selection⟩ ∈ (q.expand name selection).expansions :=
      mem_putByKey_iff.mpr (.inl rfl)
    obtain ⟨before, after, hes⟩ := List.append_of_mem hmem
    refine ⟨before.map Expansion.text, after.map Expansion.text, ?_⟩
    rw [← List.map_cons, ← List.map_append, ← hes]
    exact option?_set _ _ _
  orderBy descending := option?_set _ _ _
  key value := by
    have hmem : (q.aliases.resolve name, value) ∈ (q.key name value).keys := by
      rw [key_eq]
      exact mem_putByKey_iff.mpr (.inl rfl)
    obtain ⟨before, after, hkeys⟩ := List.append_of_mem hmem
    refine ⟨before, after, ?_⟩
    rw [keyPath, hkeys, if_neg (by simp), key_eq]

theorem writes_iff : q.Writes name wire ↔ wire = q.aliases.resolve name := by
  constructor
  · intro h
    have hselect := h.select [] []
    rw [option?_select q (by simp)] at hselect
    simpa [eq_comm] using hselect
  · rintro rfl
    exact writes_resolve q name

/-- A comparison of a member shows the name of the member in its clause. -/
theorem clause_filter (q : Query) (hne : name ≠ "") (op : Comparison) (v : Literal) :
    ∃ q', q.filter (.compare op (.ofPath name) (.literal v)) = .ok q' ∧
      q'.clause = .ok (some ((q.aliases.resolvePath (.ofText name)).text ++
        String.ofList (Clause.tokenChars op.token ++ v.text q.style))) := by
  let path := q.aliases.resolvePath (.ofText name)
  have hrename : (Predicate.compare op (.ofPath name) (.literal v)).rename q.aliases =
    .compare op (.field path) (.literal v) := rfl
  have hchars : Clause.chars q.style none (.compare op (.field path) (.literal v)) =
      .ok (path.chars ++ Clause.tokenChars op.token ++ v.text q.style) :=
    Clause.chars_compare (.field (q.aliases.isCurrent_resolvePath hne)) (.literal v)
  have hclause : (Predicate.compare op (.field path) (.literal v)).clause q.style =
      .ok (path.text ++ String.ofList (Clause.tokenChars op.token ++ v.text q.style)) := by
    rw [Predicate.clause, hchars, List.append_assoc, Path.text, ← String.ofList_append]
    rfl
  refine ⟨_, filter_eq_ok_iff.mpr ⟨⟨_, hrename ▸ hclause⟩, rfl⟩, ?_⟩
  rw [hrename, Query.clause]
  exact congrArg (Except.map some) hclause

/-- For a name, selections, expansions, orderings and keys write its wire name as a whole, and
filters the name with its segments replaced. Without an alias of the whole name these are the same
exactly if no segment is replaced, otherwise if the alias is the name with its segments replaced. On
names of one segment they are always the same. -/
theorem wire_name_alike (q : Query) (name : String) :
    let path := q.aliases.resolvePath (.ofText name)
    (∀ wire, q.Writes name wire ↔ wire = q.aliases.resolve name) ∧
      (∀ op v, (q.filterLocal (.compare op (.ofPath name) (.literal v))).localFilter =
        some (.compare op (.field path) (.literal v))) ∧
      (name ≠ "" → ∀ op v, ∃ q', q.filter (.compare op (.ofPath name) (.literal v)) = .ok q' ∧
        q'.clause = .ok (some (path.text ++
          String.ofList (Clause.tokenChars op.token ++ v.text q.style)))) ∧
      (q.aliases.pairs.lookup name = none → (q.Writes name path.text ↔
        ∀ s ∈ (Path.ofText name).segments, q.aliases.resolve s = s)) ∧
      (∀ wire, q.aliases.pairs.lookup name = some wire →
        (q.Writes name path.text ↔ wire = path.text)) ∧
      (name ≠ "" → '/' ∉ name.toList → q.Writes name path.text) := by
  intro path
  refine ⟨fun wire => writes_iff, fun op v => rfl, fun hne op v => q.clause_filter hne op v,
    fun hnone => ?_, fun wire hwire => ?_, fun hne hplain => ?_⟩
  · have hname : q.aliases.resolve name = name := by rw [Aliases.resolve, hnone]; rfl
    rw [writes_iff, hname]
    exact q.aliases.text_resolvePath_ofText_iff name
  · have hname : q.aliases.resolve name = wire := by rw [Aliases.resolve, hwire]; rfl
    rw [writes_iff, hname, eq_comm]
  · exact writes_iff.mpr (q.aliases.text_resolvePath_segment hne hplain)

/-- A name of one segment. -/
theorem wire_name_alike_city :
    let q : Query :=
      { entity := "Customers", aliases := Aliases.ofList [("city", "AddressCity")] }
    "city" ≠ "" ∧ '/' ∉ "city".toList ∧ q.Writes "city" "AddressCity" ∧
      (q.aliases.resolvePath (.ofText "city")).text = "AddressCity" := by
  intro q
  have htext : (q.aliases.resolvePath (.ofText "city")).text = "AddressCity" := by decide
  obtain ⟨-, -, -, -, -, hsegment⟩ := wire_name_alike q "city"
  exact ⟨by decide, by decide, htext ▸ hsegment (by decide) (by decide), htext⟩

/-- A name of two segments with aliases: the selection keeps it, the filter replaces both. -/
theorem segments_not_replaced :
    let q : Query :=
      { entity := "Customers"
        aliases := Aliases.ofList [("customer", "Customer"), ("city", "AddressCity")] }
    let path := q.aliases.resolvePath (.ofText "customer/city")
    (q.select ["customer/city"]).option? selectOption = some "customer/city" ∧
      path.text = "Customer/AddressCity" ∧ ¬q.Writes "customer/city" path.text := by
  intro q path
  have hpath : path.text = "Customer/AddressCity" := by decide
  refine ⟨by decide, hpath, fun h => ?_⟩
  have hname := writes_iff.mp h
  rw [hpath] at hname
  exact absurd hname (by decide)

end Query

end RecordQuery
