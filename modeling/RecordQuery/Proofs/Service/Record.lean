import RecordQuery.Proofs.Query.Key
import RecordQuery.Proofs.Service.Options

/-!
# Records located

The URL of a request for a single record leads from the root of the service by one segment, and
this segment reads as the address of the record, without its tabs and line breaks.
-/
namespace RecordQuery.Service

open Url

/-- The URL leads from the root, by one segment more, to what the text says, within the companies
that the query asks for. -/
structure Locates (root : Url) (q : Query) (text : List Char) (u : Url) : Prop where
  scheme : u.scheme = root.scheme
  authority : u.authority = root.authority
  segment : ∃ folders name, root.location = .segments (folders ++ [[]]) ∧
    u.location = .segments (folders ++ [name]) ∧ decode? name = some text
  query : u.query = if q.crossCompany then some "cross-company=true".toList else none
  fragment : u.fragment = none

variable {root u : Url} {q q' : Query} {text text' : List Char}

/-- A URL leads to one place. -/
theorem Locates.text_eq (h : Locates root q text u) (h' : Locates root q' text' u) :
    text = text' := by
  obtain ⟨folders, name, -, hl, hname⟩ := h.segment
  obtain ⟨folders', name', -, hl', hname'⟩ := h'.segment
  have hpieces : folders ++ [name] = folders' ++ [name'] :=
    Location.segments.inj (hl.symm.trans hl')
  obtain ⟨-, rfl⟩ := List.append_singleton_inj.mp hpieces
  exact Option.some.inj (hname.symm.trans hname')

theorem keyRequest_ok (h : q.IsKeyed) (method : Method) :
    ∃ r, q.keyRequest method = .ok r ∧ r.path.toList = q.addressText ∧
      r.query = if q.crossCompany then [(Query.crossCompanyOption, "true")] else [] := by
  simp only [Query.keyRequest, h.keyPath_eq]
  exact ⟨_, rfl, by simp, rfl⟩

theorem addOptions_scope (hw : u.IsWeb) (hq : u.query = none) (enabled : Bool) :
    addOptions (if enabled then [(Query.crossCompanyOption, "true")] else []) u =
      { u with query := if enabled then some "cross-company=true".toList else none } := by
  cases enabled with
  | false =>
    rw [← hq]
    rfl
  | true =>
    have hscope : inQuery u.scheme
        (['&'].intercalate ([(Query.crossCompanyOption, "true")].map optionText)) =
          "cross-company=true".toList := by
      simp only [inQuery, encodeQuery, hw.isSpecial]
      decide
    rw [if_pos rfl, addOptions_eq hq (by simp), hscope]
    rfl

theorem decode?_addressText (q : Query) :
    decode? (encode pathSet (unbroken q.addressText)) = some (unbroken q.address) := by
  rw [Query.addressText, encode_unbroken_encode (by decide) (by decide)]
  exact decode?_encode (by decide) _

theorem exists_locates (hw : root.IsWeb) {folders : List (List Char)}
    (hl : root.location = .segments (folders ++ [[]])) (h : q.IsKeyed) (method : Method) :
    ∃ r u, q.keyRequest method = .ok r ∧ resolve? root r = some u ∧
      Locates root q (unbroken q.address) u := by
  obtain ⟨r, hr, hpath, hquery⟩ := keyRequest_ok h method
  have hsegment : IsSegment r.path.toList := by
    rw [hpath]
    exact h.isSegment
  refine ⟨r, _, hr, resolve?_segment hw hl hsegment, ?_⟩
  rw [hquery, addOptions_scope (by exact hw) rfl, hpath, List.dropLast_concat]
  exact ⟨rfl, rfl, ⟨folders, _, hl, rfl, decode?_addressText q⟩, rfl, rfl⟩

/-- The request for a record goes to its address, unaltered unless there are tabs or line breaks in
it; and where there are none, no other record is requested by the same URL. -/
theorem record_located {s : Settings} (hs : root? s = some root) (hw : root.IsWeb)
    (hquery : root.query = none) (hfragment : root.fragment = none) (h : q.IsKeyed)
    (method : Method) :
    ∃ r u, q.keyRequest method = .ok r ∧ resolve? root r = some u ∧
      Locates root q (unbroken q.address) u ∧
      (Locates root q q.address u ↔ IsUnbroken q.address) ∧
      ∀ q' : Query, q'.IsKeyed → IsUnbroken q'.address → IsUnbroken q.address →
        ∀ method' r', q'.keyRequest method' = .ok r' → resolve? root r' = some u →
          q.entity = q'.entity ∧ q.keyParts = q'.keyParts := by
  obtain ⟨folders, hl⟩ := root_folders hs hw hquery hfragment
  obtain ⟨r, u, hr, hu, hlocates⟩ := exists_locates hw hl h method
  refine ⟨r, u, hr, hu, hlocates, ?_, ?_⟩
  · rw [← unbroken_eq_self_iff]
    constructor
    · intro hexact
      exact hlocates.text_eq hexact
    · intro hwhole
      rwa [hwhole] at hlocates
  · intro q' h' hwhole' hwhole method' r' hr' hu'
    obtain ⟨r'', u', hr'', hu'', hlocates'⟩ := exists_locates hw hl h' method'
    obtain rfl := Except.ok.inj (hr'.symm.trans hr'')
    obtain rfl := Option.some.inj (hu'.symm.trans hu'')
    rw [unbroken_eq_self_iff.mpr hwhole] at hlocates
    rw [unbroken_eq_self_iff.mpr hwhole'] at hlocates'
    exact h.address_inj h' (hlocates.text_eq hlocates')

/-- The query for the customer of a number. -/
def customerOf (number : String) : Query :=
  { entity := "Customers", keys := [("Id", .string number)] }

theorem isKeyed_customerOf (number : String) : (customerOf number).IsKeyed where
  entity := show Clause.isIdentifier "Customers".toList by decide
  keys := by simp [customerOf]
  names := by simp [customerOf]; decide
  constants := by simp [customerOf, Literal.IsDotted]
  style := trivial

/-- A number with signs that divide a path, with a quote and with what a path may not hold. -/
theorem record_located_signs :
    ∃ r u, (customerOf "50% of A/1?#\\ 'ä'").keyRequest .delete = .ok r ∧
      resolve? loopback r = some u ∧
      Locates loopback (customerOf "50% of A/1?#\\ 'ä'")
        "Customers(Id='50% of A/1?#\\ ''ä''')".toList u := by
  obtain ⟨r, u, hr, hu, -, hexact, -⟩ := record_located root?_loopback (.inl rfl) rfl rfl
    (isKeyed_customerOf "50% of A/1?#\\ 'ä'") .delete
  have haddress : (customerOf "50% of A/1?#\\ 'ä'").address =
      "Customers(Id='50% of A/1?#\\ ''ä''')".toList := by decide +kernel
  rw [haddress] at hexact
  exact ⟨r, u, hr, hu, hexact.mpr (by decide +kernel)⟩

/-- A tab in the number of a customer is lost: the request goes to the customer of another
number. -/
theorem tab_lost_in_key :
    ∃ r r' u, (customerOf "a\tb").keyRequest .delete = .ok r ∧
      (customerOf "ab").keyRequest .delete = .ok r' ∧
      resolve? loopback r = some u ∧ resolve? loopback r' = some u ∧
      (customerOf "a\tb").keyParts ≠ (customerOf "ab").keyParts := by
  let u : Url :=
    { loopback with location := .segments ["data".toList, "Customers(Id='ab')".toList] }
  refine ⟨_, _, u, rfl, rfl, ?_, ?_, ?_⟩
  · decide +kernel
  · decide +kernel
  · decide +kernel

end RecordQuery.Service
