import RecordQuery.CommandLine.Run
import RecordQuery.Proofs.Paging.Result
import RecordQuery.Proofs.Query.Filter

/-!
# Records at hand and records from a service

Records are selected alike whether they stand in a document or come in pages: however they are split
into pages, an unlimited run with a local predicate gives what selecting them all at once gives, be
it records or the failure of one of them.
-/
namespace RecordQuery

namespace Paging

/-- Answers that deliver these pages, each of which but the last has a link to the next one. -/
structure Serves (answers : List (Except Failure Response)) (pages : List Page) : Prop where
  decoded : ∀ i page, pages[i]? = some page → Gives (replyAt answers i) page
  linked : ∀ page ∈ pages.dropLast, ∃ link, page.nextLink = some link ∧ link ≠ ""
  ended : ∃ page, pages.getLast? = some page ∧ (page.nextLink = none ∨ page.nextLink = some "")

theorem FirstFailing.append {plan : Plan} {records : List Json} {e : Failure}
    (h : FirstFailing plan records e) (more : List Json) :
    FirstFailing plan (records ++ more) e := by
  obtain ⟨before, record, after, rfl, he, hn, hw⟩ := h
  exact ⟨before, record, after ++ more, by simp, he, hn, hw⟩

section Unlimited

variable {plan : Plan} {p : Predicate} (hp : plan.query.localFilter = some p)
  (hl : plan.query.limit = none)

theorem addMatches_none (style : BooleanStyle) (p : Predicate) (held records : List Json) :
    addMatches style p none held records = (p.select style records).map (held ++ ·) := by
  induction records generalizing held with
  | nil => simp [addMatches, Except.map]
  | cons record rest ih =>
    cases hr : p.holds style record with
    | error e => simp [addMatches, Predicate.select, hr, bind, Except.bind, Except.map]
    | ok b =>
      cases hs : p.select style rest <;> cases b <;>
        simp [addMatches, Predicate.select, hr, hs, ih, isEnough, bind, Except.bind, pure,
          Except.pure, Except.map]

include hl in
theorem isFull_eq_false (records : List Json) : isFull plan records = false := by
  simp [isFull, hl]

include hp hl in
theorem gathers_select (records : List Json) :
    Gathers plan records (p.select plan.style records) := by
  have h : Gathers plan ([] ++ records)
      (addMatches plan.style p plan.query.limit (kept plan []) records) :=
    gathers_addMatches hp (evaluable_nil plan) (isFull_eq_false hl [])
  rw [hl, addMatches_none] at h
  cases hs : p.select plan.style records <;> simpa [hs, kept, Except.map] using h

include hp hl in
/-- Records that fail together fail with one of the pages that hold them. -/
theorem FirstFailing.exists_page {pages : List Page} {e : Failure}
    (h : FirstFailing plan (delivered pages) e) :
    ∃ front page more, pages = front ++ page :: more ∧ Evaluable plan (delivered front) ∧
      FirstFailing plan (delivered (front ++ [page])) e := by
  induction pages using List.reverseRecOn with
  | nil =>
    obtain ⟨before, record, after, hsplit, -⟩ := h
    simp [delivered] at hsplit
  | append_singleton front page ih =>
    generalize hfound : p.select plan.style (delivered front) = found
    have hgathers := hfound ▸ gathers_select hp hl (delivered front)
    cases hgathers with
    | kept he => exact ⟨front, page, [], rfl, he, h⟩
    | failing hf =>
      have hf' : FirstFailing plan (delivered (front ++ [page])) _ :=
        delivered_append front [page] ▸ hf.append (delivered [page])
      obtain rfl := h.unique hf'
      obtain ⟨front', page', more, rfl, he, hfails⟩ := ih hf
      exact ⟨front', page', more ++ [page], by simp, he, hfails⟩

include hl in
theorem Serves.underway {answers : List (Except Failure Response)} {front more : List Page}
    {page : Page} (h : Serves answers (front ++ page :: more))
    (hr : ∃ r, plan.query.collectionRequest = .ok r) (he : Evaluable plan (delivered front)) :
    Underway plan answers front ∧ Gives (replyAt answers front.length) page where
  left := {
    renders := hr
    decoded := forall_getElem?_front h.decoded
    linked := fun p hp => h.linked p (mem_dropLast_of_mem hp)
    evaluable := he
    unfilled := isFull_eq_false hl _ }
  right := h.decoded _ _ (by simp)

include hp hl in
/-- However the records are split into pages, an unlimited run selects from all of them. -/
theorem run_served {answers : List (Except Failure Response)} {pages : List Page}
    (h : Serves answers pages) (hr : ∃ r, plan.query.collectionRequest = .ok r) :
    (run Script.channel plan false (uncancelled answers)).result.result.map (·.records) =
      p.select plan.style (delivered pages) := by
  generalize hfound : p.select plan.style (delivered pages) = found
  have hgathers := hfound ▸ gathers_select hp hl (delivered pages)
  cases hgathers with
  | kept he =>
    obtain ⟨page, hpage, hlast⟩ := h.ended
    obtain ⟨front, rfl⟩ : ∃ front, pages = front ++ [page] :=
      ⟨pages.dropLast, (List.dropLast_append_getLast? page hpage).symm⟩
    have heval : Evaluable plan (delivered front) := (delivered_snoc front page ▸ he).of_append
    obtain ⟨hunderway, answer⟩ := h.underway hl hr heval
    have hends : Ends plan false (uncancelled answers) (.ok (gathered plan (front ++ [page]))) :=
      .complete (by simpa using hunderway) (isFired_uncancelled _ _) (by simpa using answer) he
        (.inr (Page.isLast_iff.mpr hlast))
    rw [run_result_eq_iff.mpr hends]
    rfl
  | failing hf =>
    obtain ⟨front, page, more, rfl, he, hfails⟩ := hf.exists_page hp hl
    obtain ⟨hunderway, answer⟩ := h.underway hl hr he
    have hends : Ends plan false (uncancelled answers) (.error _) :=
      .failing (by simpa using hunderway) (isFired_uncancelled _ _) (by simpa using answer) hfails
    rw [run_result_eq_iff.mpr hends]
    rfl

end Unlimited

end Paging

namespace CommandLine

open Paging

variable {w : Surroundings} {predicate records : String} {p : Predicate} {rs : List Json}

/-- A document of records is an array of them, or an object with such an array as its value. -/
def HasRecords (document : Json) (rs : List Json) : Prop :=
  document = .array rs ∨ ∃ members, document = .object members ∧
    members.lookup "value" = some (.array rs)

theorem HasRecords.records_eq {document : Json} (h : HasRecords document rs) :
    document.records = .ok rs := by
  obtain rfl | ⟨members, rfl, hvalue⟩ := h
  · rfl
  · simp [Json.records, hvalue]

theorem eval_eq {document : Json} (hp : readPredicate w predicate = .ok p)
    (hd : readJson w records = .ok document) (hrs : HasRecords document rs) (labels : Bool) :
    eval w predicate records labels = failing (p.select (style labels) rs) := by
  simp [eval, readRecords, hp, hd, hrs.records_eq, bind, Except.bind, Except.mapError]

/-- What is selected from the records of a document is what an unlimited run with the predicate as
its local one gathers if the same records come in pages, whatever the pages; and if there is no
truth value for some record, both fail with the same failure. -/
theorem eval_eq_run {document : Json} {pages : List Page}
    {answers : List (Except Failure Response)} (hp : readPredicate w predicate = .ok p)
    (hd : readJson w records = .ok document) (hrs : HasRecords document (delivered pages))
    (hserved : Serves answers pages) (labels : Bool) (entity : String) (aliases : Aliases)
    (steps : List Query.Step) :
    let q := Query.applyAll { entity, aliases } steps
    q.localFilter = some p → q.limit = none →
      eval w predicate records labels =
        failing ((Paging.run Script.channel ⟨q, style labels⟩ false
          (uncancelled answers)).result.result.map (·.records)) := by
  intro q hlocal hlimit
  have hnew : Query.Holds { entity, aliases } none := .unfiltered rfl rfl
  obtain ⟨r, hr, -⟩ := (hnew.applyAll steps).exists_request
  let plan : Plan := ⟨q, style labels⟩
  have hplan : plan.query.localFilter = some p := hlocal
  rw [eval_eq hp hd hrs, run_served hplan hlimit hserved ⟨r, hr⟩]

/-- The records that contain a letter. -/
def lettered : Predicate := .call .contains (.field .current) [.literal (.string "b")]

def letterFiles : Surroundings where
  file path :=
    if path = "lettered" then
      some "[\"call\",\"contains\",[\"field\",\"\"],[[\"literal\",[\"string\",\"b\"]]]]"
    else some "[\"A\",\"B\",\"AB\"]"
  env _ := none

/-- Three pages of records, of which the second one is empty. -/
def letterPages : List Page :=
  [⟨some "Letters/2", [.string "A"], none⟩, ⟨some "Letters/3", [], none⟩,
    ⟨none, [.string "B", .string "AB"], none⟩]

def letterAnswers : List (Except Failure Response) :=
  ["[\"Letters/2\",[\"A\"]]", "[\"Letters/3\",[]]", "[null,[\"B\",\"AB\"]]"].map
    fun text => .ok ⟨200, [], Text.Utf8.encode text.toList⟩

theorem serves_letterPages : Serves letterAnswers letterPages where
  decoded i page hi := by
    match i with
    | 0 | 1 | 2 =>
      obtain rfl := Option.some.inj hi
      rw [← bind_decodePage_eq_ok_iff]
      cbv
  linked := by simp [letterPages]
  ended := ⟨_, rfl, .inl rfl⟩

/-- Records in a file, and the same records on three pages. -/
theorem eval_eq_run_letters :
    let q := Query.applyAll { entity := "Letters" } [.filterLocal lettered]
    (readPredicate letterFiles "lettered" = .ok lettered ∧
        readJson letterFiles "records" = .ok (.array (delivered letterPages)) ∧
        HasRecords (.array (delivered letterPages)) (delivered letterPages) ∧
        Serves letterAnswers letterPages ∧ q.localFilter = some lettered ∧ q.limit = none) ∧
      eval letterFiles "lettered" "records" true =
        failing ((Paging.run Script.channel ⟨q, style true⟩ false
          (uncancelled letterAnswers)).result.result.map (·.records)) := by
  have hp : readPredicate letterFiles "lettered" = .ok lettered := by cbv
  have hd : readJson letterFiles "records" = .ok (.array (delivered letterPages)) := by cbv
  have hrs : HasRecords (.array (delivered letterPages)) (delivered letterPages) := .inl rfl
  have heval := eval_eq_run hp hd hrs serves_letterPages true "Letters" .empty
    [.filterLocal lettered]
  -- without the abbreviation, or else comparing the two runs would carry them out
  dsimp only at heval ⊢
  exact ⟨⟨hp, hd, hrs, serves_letterPages, rfl, rfl⟩, heval rfl rfl⟩

end CommandLine

end RecordQuery
