import RecordQuery.Paging.Run
import RecordQuery.Proofs.Json.Members
import RecordQuery.Proofs.Result

/-!
# The page of a reply

A reply gives a page if its status is one of success and its body shows the page: as an object that
has the parts of the page under their names, none of them twice, or as an array that has them in a
row. Every other reply ends a run, with a failure that says what it lacks.
-/
namespace RecordQuery

open Json.Syntax (Piece Tree)

/-- The values that an object has under a name, in the syntax of a body. -/
def Json.Syntax.valuesUnder (name : String) (members : List (List Piece × Tree)) : List Tree :=
  (members.filter fun m => decodePieces? m.1 = some name.toList).map (·.2)

namespace Page

/-- The value of a part of a page. -/
def partValue? (t : Tree) : Option Json := Json.decode? (Json.maxDepth - 1) t

/-- The link to the next page is a text. It may be null or left out. -/
inductive IsLink : Option Tree → Option String → Prop
  | absent : IsLink none none
  | null : IsLink (some .null) none
  | text {t : Tree} {link : String} (h : partValue? t = some (.string link)) :
      IsLink (some t) (some link)

/-- The count of all records is a natural number. It may be null or left out. -/
inductive IsCount : Option Tree → Option Nat → Prop
  | absent : IsCount none none
  | null : IsCount (some .null) none
  | number {t : Tree} {n : Nat} (h : partValue? t = some (.ofNat n)) : IsCount (some t) (some n)

/-- A page has the parts that a body shows of it. Records may not be left out. -/
structure HasParts (p : Page) (link records count : Option Tree) : Prop where
  link : IsLink link p.nextLink
  records : ∃ t, records = some t ∧ partValue? t = some (.array p.records)
  count : IsCount count p.totalCount

/-- A page is shown by an object with named parts or by an array, where only the count at its end
may be left out. Other members of the object are passed over, but their names have to be texts. -/
inductive IsShown (p : Page) : Tree → Prop
  | object {members : List (List Piece × Tree)} {link records count : Option Tree}
      (named : ∀ m ∈ members, (Json.decodePieces? m.1).isSome)
      (oneLink : Json.Syntax.valuesUnder "@odata.nextLink" members = link.toList)
      (oneRecords : Json.Syntax.valuesUnder "value" members = records.toList)
      (oneCount : Json.Syntax.valuesUnder "@odata.count" members = count.toList)
      (parts : p.HasParts link records count) : IsShown p (.object members)
  | row {link records : Tree} {count : Option Tree}
      (parts : p.HasParts (some link) (some records) count) :
      IsShown p (.array (link :: records :: count.toList))

/-- A body shows a page. -/
def IsIn (p : Page) (body : List UInt8) : Prop :=
  ∃ tree, Json.Syntax.parse? (Text.Utf8.decode body) = some tree ∧ p.IsShown tree

end Page

namespace Paging

/-- A reply gives a page. -/
def Gives (reply : Except Failure Response) (p : Page) : Prop :=
  ∃ response, reply = .ok response ∧ response.Succeeds ∧ p.IsIn response.body

/-- What a reply fails with that gives no page. -/
inductive GivesNone (reply : Except Failure Response) : Failure → Prop
  | unanswered {e : Failure} (h : reply = .error e) : GivesNone reply e
  | refused {response : Response} (h : reply = .ok response) (status : ¬response.Succeeds) :
      GivesNone reply
        (.transport response.status (String.ofList (Text.Utf8.decodeLossy response.body)))
  | unreadable {response : Response} (h : reply = .ok response) (status : response.Succeeds)
      (body : ∀ p : Page, ¬p.IsIn response.body) : GivesNone reply .undecodable

end Paging

/-! ## Values of trees -/

namespace Json

variable {depth : Nat} {t : Tree}

theorem decode?_eq_string_iff {s : String} :
    decode? depth t = some (.string s) ↔
      ∃ pieces, t = .string pieces ∧ decodePieces? pieces = some s.toList := by
  cases t with
  | string pieces =>
    simp only [decode?, Option.map_eq_some_iff, string.injEq, Tree.string.injEq, exists_eq_left']
    refine ⟨?_, fun h => ⟨_, h, String.ofList_toList⟩⟩
    rintro ⟨cs, h, rfl⟩
    rwa [String.toList_ofList]
  | _ => simp [decode?, ofMembers]

theorem decode?_eq_number_iff {n : Number} :
    decode? depth t = some (.number n) ↔
      ∃ numeral, t = .number numeral ∧ decodeNumber? numeral = some n := by
  cases t <;> simp [decode?, ofMembers]

theorem exists_items_of_decode? {items : List Json} (h : decode? depth t = some (.array items)) :
    ∃ ts, t = .array ts := by
  cases t <;> simp_all [decode?, ofMembers]

end Json

/-! ## Pages in trees -/

namespace Page

variable {p : Page} {t link records count : Option Tree}

theorem link?_eq_some_iff {l : Option String} : link? t = some l ↔ IsLink t l := by
  refine ⟨fun h => ?_, fun h => ?_⟩
  · unfold link? at h
    split at h
    · obtain rfl := Option.some.inj h
      exact .absent
    · obtain rfl := Option.some.inj h
      exact .null
    · obtain ⟨cs, hcs, rfl⟩ := Option.map_eq_some_iff.mp h
      exact .text (Json.decode?_eq_string_iff.mpr ⟨_, rfl, by rwa [String.toList_ofList]⟩)
    · contradiction
  · cases h with
    | absent | null => rfl
    | text h =>
      obtain ⟨pieces, rfl, hpieces⟩ := Json.decode?_eq_string_iff.mp h
      simp [link?, hpieces]

theorem count?_eq_some_iff {c : Option Nat} : count? t = some c ↔ IsCount t c := by
  refine ⟨fun h => ?_, fun h => ?_⟩
  · unfold count? at h
    split at h
    · obtain rfl := Option.some.inj h
      exact .absent
    · obtain rfl := Option.some.inj h
      exact .null
    · next numeral =>
      obtain ⟨n, hn, h⟩ := Option.bind_eq_some_iff.mp h
      cases n with
      | real => contradiction
      | integer i =>
        by_cases hi : 0 ≤ i
        · obtain ⟨m, rfl⟩ := Int.eq_ofNat_of_zero_le hi
          obtain rfl : some m = c := by simpa using h
          exact .number (Json.decode?_eq_number_iff.mpr ⟨_, rfl, hn⟩)
        · simp [hi] at h
    · contradiction
  · cases h with
    | absent | null => rfl
    | number h =>
      obtain ⟨numeral, rfl, hn⟩ := Json.decode?_eq_number_iff.mp h
      simp [count?, hn]

theorem records?_eq_some_iff {rs : List Json} :
    records? t = some rs ↔ ∃ t', t = some t' ∧ partValue? t' = some (.array rs) := by
  refine ⟨fun h => ?_, ?_⟩
  · unfold records? at h
    split at h
    · next items =>
      obtain ⟨j, hj, hrs⟩ := Option.bind_eq_some_iff.mp h
      cases j with
      | array =>
        obtain rfl := Option.some.inj hrs
        exact ⟨_, rfl, hj⟩
      | _ => contradiction
    · contradiction
  · rintro ⟨t', rfl, h⟩
    obtain ⟨items, rfl⟩ := Json.exists_items_of_decode? h
    simp only [partValue?] at h
    simp [records?, h, Json.toArray?]

theorem ofParts?_eq_some_iff :
    ofParts? link records count = some p ↔ p.HasParts link records count := by
  obtain ⟨l, rs, c⟩ := p
  have hparts : (⟨l, rs, c⟩ : Page).HasParts link records count ↔
      link? link = some l ∧ records? records = some rs ∧ count? count = some c := by
    rw [link?_eq_some_iff, records?_eq_some_iff, count?_eq_some_iff]
    exact ⟨fun h => ⟨h.link, h.records, h.count⟩, fun h => ⟨h.1, h.2.1, h.2.2⟩⟩
  rw [hparts]
  cases hl : link? link <;> cases hr : records? records <;> cases hc : count? count <;>
    simp [ofParts?, hl, hr, hc]

/-- The members of an object with their names decoded. -/
def named (members : List (List Piece × Tree)) : List (List Char × Tree) :=
  members.map fun m => ((Json.decodePieces? m.1).getD [], m.2)

theorem mapM_eq_some_iff {members : List (List Piece × Tree)} {ms : List (List Char × Tree)} :
    (members.mapM fun m => (Json.decodePieces? m.1).map (·, m.2)) = some ms ↔
      (∀ m ∈ members, (Json.decodePieces? m.1).isSome) ∧ ms = named members := by
  have hmap (h : ∀ m ∈ members, (Json.decodePieces? m.1).isSome) :
      (members.mapM fun m => (Json.decodePieces? m.1).map (·, m.2)) = some (named members) :=
    mapM_eq_some_map fun m hm => by
      obtain ⟨name, hname⟩ := Option.isSome_iff_exists.mp (h m hm)
      simp [hname]
  constructor
  · intro h
    have hnames : ∀ m ∈ members, (Json.decodePieces? m.1).isSome := fun m hm => by
      simpa using isSome_of_mapM_eq_some h m hm
    rw [hmap hnames] at h
    exact ⟨hnames, (Option.some.inj h).symm⟩
  · rintro ⟨hnames, rfl⟩
    exact hmap hnames

theorem single?_eq_some_iff {members : List (List Piece × Tree)} {name : String}
    (h : ∀ m ∈ members, (Json.decodePieces? m.1).isSome) :
    single? (named members) name = some t ↔
      Json.Syntax.valuesUnder name members = t.toList := by
  have hvalues : ((named members).filter (·.1 = name.toList)).map (·.2) =
      Json.Syntax.valuesUnder name members := by
    rw [named, List.filter_map, List.map_map, Json.Syntax.valuesUnder]
    congr 1
    refine List.filter_congr fun m hm => ?_
    obtain ⟨cs, hcs⟩ := Option.isSome_iff_exists.mp (h m hm)
    simp [hcs]
  rw [← hvalues, single?]
  generalize (named members).filter (·.1 = name.toList) = found
  match found with
  | [] => cases t <;> simp
  | [m] => cases t <;> simp
  | _ :: _ :: _ => cases t <;> simp

theorem ofTree?_eq_some_iff {tree : Tree} : ofTree? tree = some p ↔ p.IsShown tree := by
  constructor
  · intro h
    unfold ofTree? at h
    split at h
    · next members =>
      obtain ⟨ms, hms, h⟩ := Option.bind_eq_some_iff.mp h
      obtain ⟨hnamed, rfl⟩ := mapM_eq_some_iff.mp hms
      obtain ⟨link, hlink, h⟩ := Option.bind_eq_some_iff.mp h
      obtain ⟨records, hrecords, h⟩ := Option.bind_eq_some_iff.mp h
      obtain ⟨count, hcount, h⟩ := Option.bind_eq_some_iff.mp h
      exact .object hnamed ((single?_eq_some_iff hnamed).mp hlink)
        ((single?_eq_some_iff hnamed).mp hrecords) ((single?_eq_some_iff hnamed).mp hcount)
        (ofParts?_eq_some_iff.mp h)
    · next link records =>
      have parts : p.HasParts (some link) (some records) none := ofParts?_eq_some_iff.mp h
      exact .row parts
    · next link records count =>
      have parts : p.HasParts (some link) (some records) (some count) :=
        ofParts?_eq_some_iff.mp h
      exact .row parts
    · contradiction
  · intro h
    cases h with
    | object hnamed oneLink oneRecords oneCount parts =>
      have hms := mapM_eq_some_iff.mpr ⟨hnamed, rfl⟩
      simp only [ofTree?, Option.bind_eq_bind, hms, Option.bind_some,
        (single?_eq_some_iff hnamed).mpr oneLink, (single?_eq_some_iff hnamed).mpr oneRecords,
        (single?_eq_some_iff hnamed).mpr oneCount]
      exact ofParts?_eq_some_iff.mpr parts
    | @row link records count parts =>
      cases count <;> exact ofParts?_eq_some_iff.mpr parts

theorem parse?_eq_some_iff {body : List UInt8} : parse? body = some p ↔ p.IsIn body := by
  simp only [parse?, Option.bind_eq_bind, Option.bind_eq_some_iff, ofTree?_eq_some_iff, IsIn]

example :
    parse? (Text.Utf8.encode
      "\x7b\"value\":[\"A\"],\"@odata.nextLink\":\"Customers/2\"\x7d".toList) =
        some ⟨some "Customers/2", [.string "A"], none⟩ := by cbv

theorem continuation_eq_some_iff {p : Page} {link : String} :
    p.continuation = some link ↔ p.nextLink = some link ∧ link ≠ "" := by
  simp [continuation, Option.filter_eq_some_iff]

theorem isLast_iff {p : Page} : p.isLast ↔ p.nextLink = none ∨ p.nextLink = some "" := by
  unfold isLast continuation
  cases p.nextLink with
  | none => simp
  | some link => by_cases h : link = "" <;> simp [h]

end Page

/-! ## Replies -/

namespace Paging

variable {reply : Except Failure Response} {p : Page} {e : Failure}

theorem decodePage_eq_ok_iff {response : Response} :
    decodePage response = .ok p ↔ response.Succeeds ∧ p.IsIn response.body := by
  rw [← Response.isSuccess_iff, ← Page.parse?_eq_some_iff, decodePage]
  cases response.isSuccess <;> cases Page.parse? response.body <;> simp

theorem decodePage_of_not_succeeds {response : Response} (h : ¬response.Succeeds) :
    decodePage response = .error response.failure := by
  have hs : response.isSuccess = false := by simpa using Response.isSuccess_iff.not.mpr h
  simp [decodePage, hs]

theorem decodePage_of_forall_not {response : Response} (hs : response.Succeeds)
    (h : ∀ p : Page, ¬p.IsIn response.body) : decodePage response = .error .undecodable := by
  have hnone : Page.parse? response.body = none :=
    Option.eq_none_iff_forall_ne_some.mpr fun p hp => h p (Page.parse?_eq_some_iff.mp hp)
  simp [decodePage, Response.isSuccess_iff.mpr hs, hnone]

/-- A reply is received as a page exactly if it gives the page. -/
theorem bind_decodePage_eq_ok_iff : reply >>= decodePage = .ok p ↔ Gives reply p := by
  simp only [bind_eq_ok_iff, decodePage_eq_ok_iff, Gives]

theorem Gives.bind_decodePage_eq (h : Gives reply p) : reply >>= decodePage = .ok p :=
  bind_decodePage_eq_ok_iff.mpr h

theorem GivesNone.bind_decodePage_eq (h : GivesNone reply e) :
    reply >>= decodePage = .error e := by
  cases h with
  | unanswered h => rw [h]; rfl
  | refused h status => rw [h]; exact decodePage_of_not_succeeds status
  | unreadable h status body => rw [h]; exact decodePage_of_forall_not status body

/-- A reply gives a page, or there is one failure for which it gives none. -/
theorem gives_or_givesNone (reply : Except Failure Response) :
    (∃ p, Gives reply p) ∨ ∃ e, GivesNone reply e := by
  cases reply with
  | error e => exact .inr ⟨e, .unanswered rfl⟩
  | ok response =>
    by_cases hs : response.Succeeds
    · by_cases hp : ∃ p : Page, p.IsIn response.body
      · obtain ⟨p, hp⟩ := hp
        exact .inl ⟨p, response, rfl, hs, hp⟩
      · exact .inr ⟨_, .unreadable rfl hs (not_exists.mp hp)⟩
    · exact .inr ⟨_, .refused rfl hs⟩

/-- The failure that ends a run at a reply is the one for which the reply gives no page. -/
theorem bind_decodePage_eq_error_iff : reply >>= decodePage = .error e ↔ GivesNone reply e := by
  refine ⟨fun h => ?_, GivesNone.bind_decodePage_eq⟩
  obtain ⟨p, hp⟩ | ⟨e', he'⟩ := gives_or_givesNone reply
  · rw [hp.bind_decodePage_eq] at h
    contradiction
  · rw [he'.bind_decodePage_eq] at h
    rwa [← Except.error.inj h]

theorem Gives.unique {p' : Page} (h : Gives reply p) (h' : Gives reply p') : p = p' :=
  Except.ok.inj (h.bind_decodePage_eq.symm.trans h'.bind_decodePage_eq)

end Paging

end RecordQuery
