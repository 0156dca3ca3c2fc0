import RecordQuery.Proofs.Paging.History

/-!
# The result of a run

A run that nobody cancels ends well behind the first page that has no link or makes up the limit,
if there is one, and else with the first failure.
-/
namespace RecordQuery.Paging

/-- A run may end well behind these pages. -/
structure Completes (plan : Plan) (answers : List (Except Failure Response))
    (pages : List Page) : Prop where
  decoded : ∀ i page, pages[i]? = some page → Gives (replyAt answers i) page
  linked : ∀ page ∈ pages.dropLast, ∃ link, page.nextLink = some link ∧ link ≠ ""
  evaluable : Evaluable plan (delivered pages)
  ended : isFull plan (delivered pages) ∨
    ∃ page, pages.getLast? = some page ∧ (page.nextLink = none ∨ page.nextLink = some "")

/-- The failures that end a run: that of the query itself, that of an answer, and that of a
record. -/
inductive FirstFailure (plan : Plan) (answers : List (Except Failure Response)) : Failure → Prop
  | query {e : Failure} (h : plan.query.collectionRequest = .error e) : FirstFailure plan answers e
  | answer {pages : List Page} {e : Failure} (h : Underway plan answers pages)
      (answer : GivesNone (replyAt answers pages.length) e) : FirstFailure plan answers e
  | record {pages : List Page} {page : Page} {e : Failure} (h : Underway plan answers pages)
      (answer : Gives (replyAt answers pages.length) page)
      (record : FirstFailing plan (delivered (pages ++ [page])) e) : FirstFailure plan answers e

/-- Answers that come in while nobody cancels. -/
def uncancelled (answers : List (Except Failure Response)) : Script := answers.map (⟨·, false⟩)

variable {plan : Plan} {answers : List (Except Failure Response)}

@[simp] theorem replies_uncancelled (answers : List (Except Failure Response)) :
    replies (uncancelled answers) = answers := by
  simp [replies, uncancelled, Function.comp_def]

@[simp] theorem isFired_uncancelled (answers : List (Except Failure Response)) (i : Nat) :
    isFired false (uncancelled answers) i = false := by
  simp [isFired, uncancelled, ← List.map_take]

/-- Every page but the last one is followed by another. -/
theorem mem_dropLast_of_mem {front more : List Page} {page next : Page} (h : page ∈ front) :
    page ∈ (front ++ next :: more).dropLast := by
  rw [List.dropLast_append_of_ne_nil (by simp)]
  exact List.mem_append_left _ h

theorem completes_nil_iff : Completes plan answers [] ↔ isFull plan [] := by
  refine ⟨fun h => ?_, fun h => ⟨by simp, by simp, evaluable_nil plan, .inl h⟩⟩
  obtain hfull | ⟨page, hpage, -⟩ := h.ended
  · exact hfull
  · simp at hpage

/-- Behind pages on which a run is underway it has not come to an end before. -/
theorem Underway.lt_of_completes {pages shorter : List Page} (h : Underway plan answers pages)
    (hc : Completes plan answers shorter) : pages.length < shorter.length := by
  by_contra hl
  obtain ⟨more, rfl⟩ := pages_prefix h.decoded hc.decoded (Nat.le_of_not_lt hl)
  obtain hfull | ⟨page, hpage, hlast⟩ := hc.ended
  · have := isFull_append hfull (delivered more)
    rw [← delivered_append, h.unfilled] at this
    contradiction
  · have hmem : page ∈ shorter ++ more := List.mem_append_left _ (List.mem_of_getLast? hpage)
    obtain ⟨link, hlink, hne⟩ := h.linked page hmem
    simp [hlink, hne] at hlast

theorem completes_snoc {pages : List Page} {page : Page} (h : Underway plan answers pages)
    (answer : Gives (replyAt answers pages.length) page)
    (evaluable : Evaluable plan (delivered (pages ++ [page])))
    (last : isFull plan (delivered (pages ++ [page])) ∨ page.isLast) :
    Completes plan answers (pages ++ [page]) where
  decoded := forall_getElem?_snoc h.decoded answer
  linked := by
    rw [List.dropLast_concat]
    exact h.linked
  evaluable := evaluable
  ended := last.imp id fun hl => ⟨page, by simp, Page.isLast_iff.mp hl⟩

/-- All but the last of the fewest pages behind which a run may end leave it underway. -/
theorem Completes.underway {pages : List Page} {page : Page} {r : Request}
    (hr : plan.query.collectionRequest = .ok r) (h : Completes plan answers (pages ++ [page]))
    (least : ∀ shorter, Completes plan answers shorter →
      (pages ++ [page]).length ≤ shorter.length) :
    Underway plan answers pages := by
  have hlinked : ∀ p ∈ pages, ∃ link, p.nextLink = some link ∧ link ≠ "" := fun p hp =>
    h.linked p (by simpa using hp)
  have hdecoded : ∀ i p, pages[i]? = some p → Gives (replyAt answers i) p :=
    forall_getElem?_front h.decoded
  have hevaluable := (delivered_snoc pages page ▸ h.evaluable).of_append
  refine ⟨⟨r, hr⟩, hdecoded, hlinked, hevaluable, ?_⟩
  by_contra hfull
  have hc : Completes plan answers pages :=
    ⟨hdecoded, fun p hp => h.linked p (by simpa using List.dropLast_subset _ hp), hevaluable,
      .inl (by simpa using hfull)⟩
  have := least pages hc
  simp at this

theorem ends_ok_iff {c : Collected} :
    Ends plan false (uncancelled answers) (.ok c) ↔
      (∃ r, plan.query.collectionRequest = .ok r) ∧
        ∃ pages, Completes plan answers pages ∧
          (∀ shorter, Completes plan answers shorter → pages.length ≤ shorter.length) ∧
          c = gathered plan pages := by
  refine ⟨fun h => ?_, ?_⟩
  · cases h with
    | idle hr full => exact ⟨⟨_, hr⟩, [], completes_nil_iff.mpr full, by simp, rfl⟩
    | complete h fired answer evaluable last =>
      rw [replies_uncancelled] at h answer
      refine ⟨h.renders, _, completes_snoc h answer evaluable last, fun shorter hc => ?_, rfl⟩
      simpa using h.lt_of_completes hc
  · rintro ⟨⟨r, hr⟩, pages, hc, least, rfl⟩
    rcases List.eq_nil_or_concat pages with rfl | ⟨front, page, rfl⟩
    · exact .idle hr (completes_nil_iff.mp hc)
    · rw [List.concat_eq_append] at hc least ⊢
      have hu := hc.underway hr least
      have hpage := hc.decoded front.length page List.getElem?_concat_length
      refine .complete (by simpa using hu) (isFired_uncancelled _ _) (by simpa using hpage)
        hc.evaluable (hc.ended.imp id ?_)
      rintro ⟨p, hp, hlast⟩
      rw [List.getLast?_concat] at hp
      rw [Option.some.inj hp]
      exact Page.isLast_iff.mpr hlast

theorem ends_error_iff {e : Failure} :
    Ends plan false (uncancelled answers) (.error e) ↔ FirstFailure plan answers e := by
  refine ⟨fun h => ?_, fun h => ?_⟩
  · cases h with
    | unrendered h => exact .query h
    | cancelled h fired => simp at fired
    | unanswered h fired answer => exact .answer (by simpa using h) (by simpa using answer)
    | failing h fired answer record =>
      exact .record (by simpa using h) (by simpa using answer) record
  · cases h with
    | query h => exact .unrendered h
    | answer h answer =>
      exact .unanswered (by simpa using h) (isFired_uncancelled _ _) (by simpa using answer)
    | record h answer record =>
      exact .failing (by simpa using h) (isFired_uncancelled _ _) (by simpa using answer) record

/-- A run that nobody cancels gives the records of the fewest pages behind which it may end, with
the first count among them, or fails with the first failure. It asks for nothing exactly when
nothing is wanted. -/
theorem run_result (plan : Plan) (answers : List (Except Failure Response)) :
    let result := (run Script.channel plan false (uncancelled answers)).result.result
    (∀ c, result = .ok c ↔
      (∃ r, plan.query.collectionRequest = .ok r) ∧
        ∃ pages, Completes plan answers pages ∧
          (∀ shorter, Completes plan answers shorter → pages.length ≤ shorter.length) ∧
          c = gathered plan pages) ∧
      (∀ e, result = .error e ↔ FirstFailure plan answers e) ∧
      ∀ c, result = .ok c → (c.pages = 0 ↔ plan.query.limit = some 0) := by
  intro result
  refine ⟨fun c => run_result_eq_iff.trans ends_ok_iff,
    fun e => run_result_eq_iff.trans ends_error_iff, fun c hc => ?_⟩
  obtain ⟨-, pages, hcompletes, least, rfl⟩ := ends_ok_iff.mp (run_result_eq_iff.mp hc)
  rw [← isFull_nil_iff]
  refine ⟨fun h => ?_, fun h => ?_⟩
  · obtain rfl := List.length_eq_zero_iff.mp h
    exact completes_nil_iff.mp hcompletes
  · exact Nat.le_zero.mp (least [] (completes_nil_iff.mpr h))

end RecordQuery.Paging
