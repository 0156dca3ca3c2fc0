import RecordQuery.Proofs.Service.Resolution

/-!
# Options read back

What a server reads from the query of a URL. It finds the options of the request in their order.
Names and values are as they were given, except that tabs and line breaks are lost.
-/
namespace RecordQuery.Service

open Url

/-- The name and the value on the two sides of the first equals sign. -/
def readOption? (text : List Char) : Option (String × String) := do
  let (name, value) := cut '=' text
  let name ← decode? name
  let value ← decode? (← value)
  return (String.ofList name, String.ofList value)

def readOptions? (query : List Char) : Option Pairs := (query.splitOn '&').mapM readOption?

/-- An option without its tabs and line breaks. -/
def unbrokenOption (o : String × String) : String × String :=
  (String.ofList (unbroken o.1.toList), String.ofList (unbroken o.2.toList))

theorem unbrokenOption_eq_self_iff {o : String × String} :
    unbrokenOption o = o ↔ IsUnbroken o.1.toList ∧ IsUnbroken o.2.toList := by
  obtain ⟨name, value⟩ := o
  have hside (s : String) : String.ofList (unbroken s.toList) = s ↔ IsUnbroken s.toList := by
    rw [← unbroken_eq_self_iff, ← String.toList_inj, String.toList_ofList]
  simp only [unbrokenOption, Prod.mk.injEq, hside]

theorem map_unbrokenOption_eq_self_iff {options : Pairs} :
    options.map unbrokenOption = options ↔
      ∀ o ∈ options, IsUnbroken o.1.toList ∧ IsUnbroken o.2.toList := by
  have hmap := List.map_inj_left (l := options) (f := unbrokenOption) (g := id)
  rw [List.map_id] at hmap
  simpa only [id, unbrokenOption_eq_self_iff] using hmap

/-- The signs that would end a name or a value, or stand for something else. -/
def optionSigns : String := "%&+#="

theorem escapeOption_eq (s : String) : escapeOption s = encode (oneOf optionSigns) s.toList := by
  unfold escapeOption encode
  congr 1
  funext c
  unfold escapeOptionChar optionSigns oneOf
  split_ifs <;> simp_all <;> decide

variable {scheme : List Char}

/-- What becomes of a text in a query. -/
def inQuery (scheme text : List Char) : List Char := encodeQuery scheme (unbroken text)

theorem inQuery_append (s t : List Char) :
    inQuery scheme (s ++ t) = inQuery scheme s ++ inQuery scheme t := by
  simp only [inQuery, encodeQuery, unbroken_append, encode_append]

theorem inQuery_mark {mark : Char} (h : mark = '&' ∨ mark = '=') :
    inQuery scheme [mark] = [mark] := by
  rcases h with rfl | rfl <;> cases hs : isSpecial scheme <;>
    simp [inQuery, encodeQuery, hs] <;> decide

theorem escapeChars_not_querySet (special : Bool) :
    escapeChars.toList.all (!querySet special ·) := by
  cases special <;> decide

/-- A name or a value on the two sides of the marks that divide a query. -/
theorem inQuery_escapeOption (s : String) :
    inQuery scheme (escapeOption s) =
      encode (fun c => oneOf optionSigns c || querySet (isSpecial scheme) c)
        (unbroken s.toList) := by
  rw [escapeOption_eq]
  exact encode_unbroken_encode (by decide) (escapeChars_not_querySet _) s.toList

theorem decode?_inQuery (s : String) :
    decode? (inQuery scheme (escapeOption s)) = some (unbroken s.toList) := by
  rw [inQuery_escapeOption]
  exact decode?_encode (by simp [optionSigns, oneOf]) _

theorem not_mem_inQuery {mark : Char} (h : mark = '&' ∨ mark = '=') (s : String) :
    mark ∉ inQuery scheme (escapeOption s) := by
  intro hmem
  rw [inQuery_escapeOption] at hmem
  rcases mem_encode hmem with ⟨hset, -⟩ | hescape
  · rcases h with rfl | rfl <;> simp [optionSigns, oneOf] at hset
  · rcases h with rfl | rfl <;> exact absurd hescape (by decide)

theorem inQuery_optionText (o : String × String) :
    inQuery scheme (optionText o) =
      inQuery scheme (escapeOption o.1) ++ '=' :: inQuery scheme (escapeOption o.2) := by
  have hmark : optionText o = escapeOption o.1 ++ (['='] ++ escapeOption o.2) := rfl
  rw [hmark, inQuery_append, inQuery_append, inQuery_mark (.inr rfl)]
  rfl

theorem readOption?_inQuery (o : String × String) :
    readOption? (inQuery scheme (optionText o)) = some (unbrokenOption o) := by
  have hname : '=' ∉ inQuery scheme (escapeOption o.1) := not_mem_inQuery (.inr rfl) o.1
  rw [inQuery_optionText, readOption?, cut_append hname]
  simp [decode?_inQuery, unbrokenOption]

theorem readOptions?_inQuery (scheme : List Char) {options : Pairs} (h : options ≠ []) :
    readOptions? (inQuery scheme (['&'].intercalate (options.map optionText))) =
      some (options.map unbrokenOption) := by
  have hsplit : (['&'].intercalate ((options.map optionText).map (inQuery scheme))).splitOn '&' =
      (options.map optionText).map (inQuery scheme) := by
    refine List.splitOn_intercalate '&' ?_ (by simpa using h)
    simp only [List.map_map, List.mem_map, forall_exists_index, and_imp,
      forall_apply_eq_imp_iff₂, Function.comp_apply, inQuery_optionText]
    intro o _
    simp [not_mem_inQuery]
  have hread : (readOption? ∘ inQuery scheme) ∘ optionText = fun o => some (unbrokenOption o) :=
    funext readOption?_inQuery
  rw [readOptions?, Text.apply_intercalate inQuery_append (inQuery_mark (.inl rfl)), hsplit,
    List.mapM_map, List.mapM_map, hread]
  exact List.mapM_pure

theorem addOptions_eq {u : Url} (hu : u.query = none) {options : Pairs} (h : options ≠ []) :
    addOptions options u =
      { u with query := some (inQuery u.scheme (['&'].intercalate (options.map optionText))) } := by
  simp only [addOptions, List.isEmpty_eq_false_iff.mpr h, hu]
  rfl

variable {root : Url} {r : Request}

theorem resolve?_options (hw : root.IsWeb) {pieces : List (List Char)}
    (hl : root.location = .segments pieces) (hp : Clause.isIdentifier r.path.toList)
    (hq : r.query ≠ []) :
    ∃ u, resolve? root r = some u ∧ u.fragment = none ∧
      u.query = some (inQuery root.scheme (['&'].intercalate (r.query.map optionText))) := by
  refine ⟨_, resolve?_segment hw hl (isSegment_identifier hp), ?_⟩
  rw [addOptions_eq rfl hq]
  exact ⟨rfl, rfl⟩

/-- Every option of a request is found in its URL, in its place, under its name and with its value,
and nothing else is found there. It is unaltered unless there are tabs or line breaks in it. -/
theorem options_read_back {s : Settings} (h : root? s = some root) (hw : root.IsWeb)
    (hp : Clause.isIdentifier r.path.toList) (hq : r.query ≠ []) :
    ∃ u query, resolve? root r = some u ∧ u.fragment = none ∧ u.query = some query ∧
      readOptions? query = some (r.query.map unbrokenOption) ∧
      (readOptions? query = some r.query ↔
        ∀ o ∈ r.query, IsUnbroken o.1.toList ∧ IsUnbroken o.2.toList) := by
  obtain ⟨pieces, hl⟩ := root_segments h hw
  obtain ⟨u, hu, hfragment, hquery⟩ := resolve?_options hw hl hp hq
  have hread := readOptions?_inQuery root.scheme hq
  refine ⟨u, _, hu, hfragment, hquery, hread, ?_⟩
  rw [hread, Option.some_inj]
  exact map_unbrokenOption_eq_self_iff

/-- A request for the customers of which a clause holds. -/
def customersWhere (clause : String) : Request :=
  { method := .get, path := "Customers", query := [("$filter", clause)] }

/-- A clause with signs that divide queries and with characters that a query may not hold. -/
theorem options_read_back_signs :
    ∃ u query, resolve? loopback (customersWhere "Name eq 'ä=&#' or Code eq '50%+1'") = some u ∧
      u.query = some query ∧
      readOptions? query = some [("$filter", "Name eq 'ä=&#' or Code eq '50%+1'")] := by
  obtain ⟨u, query, hu, -, hquery, -, hread⟩ :=
    options_read_back (r := customersWhere "Name eq 'ä=&#' or Code eq '50%+1'")
      root?_loopback (.inl rfl) (by decide) (by simp [customersWhere])
  exact ⟨u, query, hu, hquery, hread.mpr (by decide +kernel)⟩

/-- A tab between the quotes of a constant is lost: records of another name are asked for. -/
theorem tab_lost_in_option :
    ∃ u query, resolve? loopback (customersWhere "Name eq 'a\tb'") = some u ∧
      u.query = some query ∧ readOptions? query = some [("$filter", "Name eq 'ab'")] := by
  have hw : loopback.IsWeb := .inl rfl
  obtain ⟨u, hu, -, hquery⟩ := resolve?_options (r := customersWhere "Name eq 'a\tb'") hw rfl
    (by decide) (by simp [customersWhere])
  exact ⟨u, _, hu, hquery, by decide +kernel⟩

end RecordQuery.Service
