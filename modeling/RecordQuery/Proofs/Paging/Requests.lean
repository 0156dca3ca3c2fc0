import RecordQuery.Proofs.Paging.History

/-!
# The requests of a run

A run asks for the collection first and then follows the links of the pages, each with the headers
of the first request and nothing else. It takes one answer to every request.
-/
namespace RecordQuery.Paging

/-- The pages of all answers so far call for one more request, to the link of the last of them. -/
structure CallsFor (plan : Plan) (cancelled : Bool) (script : Script) (pages : List Page)
    (link : String) : Prop where
  decoded : ∀ i page, pages[i]? = some page → Gives (replyAt (replies script) i) page
  linked : pages.getLast?.bind (·.nextLink) = some link
  nonempty : link ≠ ""
  evaluable : Evaluable plan (delivered pages)
  unfilled : ∀ n, plan.query.limit = some n → (gathered plan pages).records.length < n
  unfired : isFired cancelled script pages.length = false

variable {plan : Plan} {cancelled : Bool} {script : Script} {pages : List Page}

theorem isFull_eq_false_iff :
    isFull plan (delivered pages) = false ↔
      ∀ n, plan.query.limit = some n → (gathered plan pages).records.length < n := by
  rw [← isEnough_gathered]
  cases plan.query.limit <;> simp [isEnough]

theorem collectionRequest_headers {q : Query} {r : Request} (h : q.collectionRequest = .ok r) :
    r.headers = q.headers := by
  obtain ⟨pairs, -, hr⟩ := bind_eq_ok_iff.mp h
  rw [← Except.ok.inj hr]

theorem run_first_request {r : Request} :
    (run Script.channel plan cancelled script).requests[0]? = some r ↔
      plan.query.collectionRequest = .ok r ∧ plan.query.limit ≠ some 0 ∧ cancelled = false := by
  have hfired : isFired cancelled script 0 = cancelled := by simp [isFired]
  have hfull : isFull plan [] = false ↔ plan.query.limit ≠ some 0 := by
    simpa using isFull_nil_iff.not
  rw [run_requests_iff, hfired, ← hfull]
  refine ⟨?_, ?_⟩
  · rintro ⟨pages, hl, h, hc, asks⟩
    obtain rfl := List.length_eq_zero_iff.mp hl
    exact ⟨asks_nil.mp asks, h.unfilled, hc⟩
  · rintro ⟨hr, hn, hc⟩
    exact ⟨[], rfl, underway_nil hr hn, hc, .first hr⟩

/-- Behind pages on which a run is underway, the last page has the link that is asked for. -/
theorem Underway.callsFor {page : Page} {r : Request}
    (h : Underway plan (replies script) (pages ++ [page]))
    (hf : isFired cancelled script (pages ++ [page]).length = false)
    (asks : Asks plan (pages ++ [page]) r) :
    ∃ link, CallsFor plan cancelled script (pages ++ [page]) link ∧ r = followUp plan link := by
  obtain ⟨link, hlink, rfl⟩ := asks_snoc.mp asks
  obtain ⟨hnext, hne⟩ := Page.continuation_eq_some_iff.mp hlink
  exact ⟨link,
    ⟨h.decoded, by simp [hnext], hne, h.evaluable, isFull_eq_false_iff.mp h.unfilled, hf⟩,
    rfl⟩

theorem CallsFor.underway {page : Page} {link : String}
    (h : CallsFor plan cancelled script (pages ++ [page]) link)
    (hu : Underway plan (replies script) pages) :
    Underway plan (replies script) (pages ++ [page]) ∧
      Asks plan (pages ++ [page]) (followUp plan link) := by
  have hlink : page.nextLink = some link ∧ link ≠ "" := ⟨by simpa using h.linked, h.nonempty⟩
  have hpage := h.decoded pages.length page List.getElem?_concat_length
  exact ⟨hu.snoc hpage ⟨link, hlink⟩ h.evaluable (isFull_eq_false_iff.mpr h.unfilled),
    .next (Page.continuation_eq_some_iff.mpr hlink)⟩

theorem exists_first_request (h : Underway plan (replies script) pages)
    (hf : isFired cancelled script pages.length = false) :
    ∃ first, (run Script.channel plan cancelled script).requests[0]? = some first ∧
      first.headers = plan.query.headers := by
  obtain ⟨r, hr⟩ := h.renders
  have hn : isFull plan [] = false := isFull_eq_false_of_append h.unfilled
  refine ⟨r, run_requests_iff.mpr ⟨[], rfl, underway_nil hr hn, ?_, .first hr⟩,
    collectionRequest_headers hr⟩
  exact isFired_mono (Nat.zero_le _) hf

theorem run_next_request {i : Nat} {r : Request} :
    let requests := (run Script.channel plan cancelled script).requests
    requests[i + 1]? = some r ↔ i < requests.length ∧
      ∃ pages link first, pages.length = i + 1 ∧ CallsFor plan cancelled script pages link ∧
        requests[0]? = some first ∧ r = ⟨.get, link, [], first.headers, none⟩ := by
  intro requests
  refine ⟨fun h => ?_, ?_⟩
  · have hi : i + 1 < requests.length := (List.getElem?_eq_some_iff.mp h).1
    obtain ⟨pages, hl, hu, hf, asks⟩ := run_requests_iff.mp h
    obtain ⟨first, hfirst, hheaders⟩ := exists_first_request hu (hl ▸ hf)
    obtain rfl | ⟨front, page, rfl⟩ := List.eq_nil_or_concat pages
    · simp at hl
    · rw [List.concat_eq_append] at hl hu asks
      obtain ⟨link, hcalls, rfl⟩ := hu.callsFor (hl ▸ hf) asks
      exact ⟨by omega, _, link, first, hl, hcalls, hfirst, by rw [hheaders]; rfl⟩
  · rintro ⟨hi, pages, link, first, hl, hcalls, hfirst, rfl⟩
    obtain ⟨front, hfl, hu, -, -⟩ := run_requests_iff.mp (List.getElem?_eq_getElem hi)
    obtain ⟨more, rfl⟩ := pages_prefix hcalls.decoded hu.decoded (by omega)
    obtain ⟨page, rfl⟩ := List.length_eq_one_iff.mp (by simp at hl; omega : more.length = 1)
    obtain ⟨hu', asks⟩ := hcalls.underway hu
    have hheaders := collectionRequest_headers (run_first_request.mp hfirst).1
    refine run_requests_iff.mpr ⟨_, hl, hu', hl ▸ hcalls.unfired, ?_⟩
    rw [hheaders]
    exact asks

/-- The first request is that of the query, unless nothing is wanted or the run is cancelled
already. A further one is a plain request to the link of the last page with the headers of the
first; it is sent exactly if all answers so far gave pages, the last page has a link, the records
could be looked at and do not make up the limit, and the run is not cancelled. Every request takes
one answer, and none follows an answer without a page. -/
theorem run_requests (plan : Plan) (cancelled : Bool) (script : Script) :
    let t := run Script.channel plan cancelled script
    (∀ r, t.requests[0]? = some r ↔
      plan.query.collectionRequest = .ok r ∧ plan.query.limit ≠ some 0 ∧ cancelled = false) ∧
      (∀ i r, t.requests[i + 1]? = some r ↔ i < t.requests.length ∧
        ∃ pages link first, pages.length = i + 1 ∧ CallsFor plan cancelled script pages link ∧
          t.requests[0]? = some first ∧ r = ⟨.get, link, [], first.headers, none⟩) ∧
      t.state = script.drop t.requests.length ∧
      ∀ i, (∀ page, ¬Gives (replyAt (replies script) i) page) → t.requests.length ≤ i + 1 := by
  refine ⟨fun r => run_first_request, fun i r => run_next_request, advance_state .., ?_⟩
  intro i hnone
  by_contra hlt
  obtain ⟨pages, hl, hu, -⟩ :=
    run_requests_iff.mp (List.getElem?_eq_getElem (Nat.lt_of_not_le hlt))
  exact hnone pages[i] (hu.decoded i pages[i] (List.getElem?_eq_getElem (by omega)))

end RecordQuery.Paging
