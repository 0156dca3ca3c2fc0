import RecordQuery.Proofs.Paging.Gathered
import RecordQuery.Proofs.Paging.Moment
import RecordQuery.Proofs.Paging.Page

/-!
# Where a run stands

The pages that have come in tell where a run stands: what it holds and what it asks for next. A run
goes on behind pages that all have links, whose records could be looked at and do not make up the
limit, and it ends in one of six ways.
-/
namespace RecordQuery

namespace Paging

/-- The answers are numbered from zero. -/
def replyAt (answers : List (Except Failure Response)) (i : Nat) : Except Failure Response :=
  answers.getD i (.error Script.exhausted)

def replies (script : Script) : List (Except Failure Response) := script.map (·.reply)

/-- Whether a run is cancelled once so many answers have come in. -/
def isFired (cancelled : Bool) (script : Script) (answers : Nat) : Bool :=
  cancelled || (script.take answers).any (·.cancels)

/-- The request behind some pages. -/
inductive Asks (plan : Plan) : List Page → Request → Prop
  | first {r : Request} (h : plan.query.collectionRequest = .ok r) : Asks plan [] r
  | next {pages : List Page} {page : Page} {link : String}
      (h : page.continuation = some link) : Asks plan (pages ++ [page]) (followUp plan link)

/-- Behind these pages a run goes on, unless it is cancelled. -/
structure Underway (plan : Plan) (answers : List (Except Failure Response))
    (pages : List Page) : Prop where
  renders : ∃ r, plan.query.collectionRequest = .ok r
  decoded : ∀ i page, pages[i]? = some page → Gives (replyAt answers i) page
  linked : ∀ page ∈ pages, ∃ link, page.nextLink = some link ∧ link ≠ ""
  evaluable : Evaluable plan (delivered pages)
  unfilled : isFull plan (delivered pages) = false

/-- How a run ends. -/
inductive Ends (plan : Plan) (cancelled : Bool) (script : Script) :
    Except Failure Collected → Prop
  | unrendered {e : Failure} (h : plan.query.collectionRequest = .error e) :
      Ends plan cancelled script (.error e)
  /-- Nothing is wanted, so nothing is asked for. -/
  | idle {r : Request} (h : plan.query.collectionRequest = .ok r) (full : isFull plan []) :
      Ends plan cancelled script (.ok (gathered plan []))
  | cancelled {pages : List Page} (h : Underway plan (replies script) pages)
      (fired : isFired cancelled script pages.length) :
      Ends plan cancelled script (.error .cancelled)
  | unanswered {pages : List Page} {e : Failure} (h : Underway plan (replies script) pages)
      (fired : isFired cancelled script pages.length = false)
      (answer : GivesNone (replyAt (replies script) pages.length) e) :
      Ends plan cancelled script (.error e)
  | failing {pages : List Page} {page : Page} {e : Failure}
      (h : Underway plan (replies script) pages)
      (fired : isFired cancelled script pages.length = false)
      (answer : Gives (replyAt (replies script) pages.length) page)
      (record : FirstFailing plan (delivered (pages ++ [page])) e) :
      Ends plan cancelled script (.error e)
  | complete {pages : List Page} {page : Page} (h : Underway plan (replies script) pages)
      (fired : isFired cancelled script pages.length = false)
      (answer : Gives (replyAt (replies script) pages.length) page)
      (evaluable : Evaluable plan (delivered (pages ++ [page])))
      (last : isFull plan (delivered (pages ++ [page])) ∨ page.isLast) :
      Ends plan cancelled script (.ok (gathered plan (pages ++ [page])))

/-- What a moment may be after some steps: underway behind as many pages, or at the end. -/
inductive Reached (plan : Plan) (cancelled : Bool) (script : Script) : Nat → Moment → Prop
  | asking {pages : List Page} {r : Request} (h : Underway plan (replies script) pages)
      (asks : Asks plan pages r) (fired : isFired cancelled script pages.length = false) :
      Reached plan cancelled script pages.length
        ⟨.asking r (gathered plan pages), false, script.drop pages.length⟩
  | finished {i : Nat} {m : Moment} {result : Except Failure Collected}
      (h : m.progress = .finished result) (ends : Ends plan cancelled script result) :
      Reached plan cancelled script i m

theorem asks_nil {plan : Plan} {r : Request} :
    Asks plan [] r ↔ plan.query.collectionRequest = .ok r := by
  refine ⟨fun h => ?_, .first⟩
  generalize hp : ([] : List Page) = pages at h
  cases h with
  | first h => exact h
  | next => simp at hp

theorem asks_snoc {plan : Plan} {pages : List Page} {page : Page} {r : Request} :
    Asks plan (pages ++ [page]) r ↔
      ∃ link, page.continuation = some link ∧ r = followUp plan link := by
  refine ⟨fun h => ?_, ?_⟩
  · generalize hp : pages ++ [page] = all at h
    cases h with
    | first => simp at hp
    | next hlink =>
      obtain ⟨-, rfl⟩ := List.append_inj' hp rfl |>.imp id List.singleton_inj.mp
      exact ⟨_, hlink, rfl⟩
  · rintro ⟨link, hlink, rfl⟩
    exact .next hlink

section Steps

variable {plan : Plan} {pages : List Page} {page : Page} {reply : Except Failure Response}

theorem ask_gathered (plan : Plan) (pages : List Page) (cancelled : Bool) (r : Request) :
    ask plan cancelled r (gathered plan pages) =
      if isFull plan (delivered pages) then .finished (.ok (gathered plan pages))
      else if cancelled then .finished (.error .cancelled)
      else .asking r (gathered plan pages) := by
  rw [ask, isEnough_gathered]

theorem start_eq_ask {r : Request} (h : plan.query.collectionRequest = .ok r) (cancelled : Bool) :
    start plan cancelled = ask plan cancelled r (gathered plan []) := by
  have hempty : gathered plan [] = {} := by
    cases hl : plan.query.limit <;> simp [gathered, upTo, hl, delivered, kept]
  simp [start, h, hempty]

theorem receive_error {e : Failure} (h : GivesNone reply e) (cancelled : Bool) (c : Collected) :
    receive plan cancelled c reply = .finished (.error e) := by
  simp [receive, bind_decodePage_eq_error_iff.mpr h]

section Page

variable (he : Evaluable plan (delivered pages)) (hn : isFull plan (delivered pages) = false)
  (h : Gives reply page) (cancelled : Bool)

include he hn h in
theorem receive_failing {e : Failure} (hf : FirstFailing plan (delivered (pages ++ [page])) e) :
    receive plan cancelled (gathered plan pages) reply = .finished (.error e) := by
  simp [receive, h.bind_decodePage_eq, (addPage_eq_error_iff he hn).mpr hf]

include he hn h in
theorem receive_last (hpage : Evaluable plan (delivered (pages ++ [page])))
    (hlink : page.continuation = none) :
    receive plan cancelled (gathered plan pages) reply =
      .finished (.ok (gathered plan (pages ++ [page]))) := by
  simp [receive, h.bind_decodePage_eq, (addPage_eq_ok_iff he hn).mpr ⟨hpage, rfl⟩, hlink]

include he hn h in
theorem receive_linked (hpage : Evaluable plan (delivered (pages ++ [page]))) {link : String}
    (hlink : page.continuation = some link) :
    receive plan cancelled (gathered plan pages) reply =
      ask plan cancelled (followUp plan link) (gathered plan (pages ++ [page])) := by
  simp [receive, h.bind_decodePage_eq, (addPage_eq_ok_iff he hn).mpr ⟨hpage, rfl⟩, hlink]

end Page

/-- Answers leave no choice of the pages they give. -/
theorem pages_prefix {answers : List (Except Failure Response)} {shorter : List Page}
    (h : ∀ i page, pages[i]? = some page → Gives (replyAt answers i) page)
    (h' : ∀ i page, shorter[i]? = some page → Gives (replyAt answers i) page)
    (hl : shorter.length ≤ pages.length) : shorter <+: pages := by
  rw [List.prefix_iff_getElem?]
  intro i hi
  have hpage := h i pages[i] (List.getElem?_eq_getElem (by omega))
  have hpage' := h' i shorter[i] (List.getElem?_eq_getElem hi)
  rw [List.getElem?_eq_getElem (by omega), hpage.unique hpage']

theorem Underway.snoc {answers : List (Except Failure Response)}
    (h : Underway plan answers pages) (hpage : Gives (replyAt answers pages.length) page)
    (hlink : ∃ link, page.nextLink = some link ∧ link ≠ "")
    (he : Evaluable plan (delivered (pages ++ [page])))
    (hn : isFull plan (delivered (pages ++ [page])) = false) :
    Underway plan answers (pages ++ [page]) where
  renders := h.renders
  decoded := forall_getElem?_snoc h.decoded hpage
  linked := by
    intro p hp
    rcases List.mem_append.mp hp with hp | hp
    · exact h.linked p hp
    · rwa [List.mem_singleton.mp hp]
  evaluable := he
  unfilled := hn

theorem Underway.of_snoc {answers : List (Except Failure Response)}
    (h : Underway plan answers (pages ++ [page])) :
    Underway plan answers pages ∧ Gives (replyAt answers pages.length) page := by
  have hd := delivered_snoc pages page
  refine ⟨⟨h.renders, forall_getElem?_front h.decoded,
    fun p hp => h.linked p (by simp [hp]), ?_, ?_⟩,
    h.decoded _ _ List.getElem?_concat_length⟩
  · exact (hd ▸ h.evaluable).of_append
  · exact isFull_eq_false_of_append (hd ▸ h.unfilled)

theorem Underway.exists_asks {answers : List (Except Failure Response)}
    (h : Underway plan answers pages) : ∃ r, Asks plan pages r := by
  rcases List.eq_nil_or_concat pages with rfl | ⟨front, page, rfl⟩
  · obtain ⟨r, hr⟩ := h.renders
    exact ⟨r, .first hr⟩
  · obtain ⟨link, hlink⟩ := h.linked page (by simp)
    exact ⟨_, by simpa using .next (Page.continuation_eq_some_iff.mpr hlink)⟩

end Steps

section Moments

variable {plan : Plan} {cancelled : Bool} {script : Script} {pages : List Page}

theorem isFired_succ (cancelled : Bool) (script : Script) (i : Nat) :
    isFired cancelled script (i + 1) =
      (isFired cancelled script i || script[i]?.any (·.cancels)) := by
  rw [isFired, isFired, List.take_add_one, List.any_append, Bool.or_assoc]
  cases script[i]? <;> simp

theorem next_asking {r : Request} {c : Collected} {i : Nat}
    (hf : isFired cancelled script i = false) :
    Moment.next plan ⟨.asking r c, false, script.drop i⟩ =
      ⟨receive plan (isFired cancelled script (i + 1)) c (replyAt (replies script) i),
        isFired cancelled script (i + 1), script.drop (i + 1)⟩ := by
  rw [isFired_succ, hf, Bool.false_or]
  rcases Nat.lt_or_ge i script.length with hi | hi
  · simp only [Moment.next, List.drop_eq_getElem_cons hi, Script.send_cons]
    simp [replyAt, replies, hi]
  · have hdrop := List.drop_eq_nil_of_le hi
    have hdrop' := List.drop_eq_nil_of_le (Nat.le_succ_of_le hi)
    simp [Moment.next, hdrop, hdrop', replyAt, replies, List.getElem?_eq_none hi, Script.send]

/-- A run that asks for a page gets its request out, unless enough is held or it is cancelled. -/
theorem reached_ask {r : Request} (asks : Asks plan pages r)
    (hfull : isFull plan (delivered pages) →
      Ends plan cancelled script (.ok (gathered plan pages)))
    (hopen : isFull plan (delivered pages) = false → Underway plan (replies script) pages) :
    Reached plan cancelled script pages.length
      ⟨ask plan (isFired cancelled script pages.length) r (gathered plan pages),
        isFired cancelled script pages.length, script.drop pages.length⟩ := by
  rw [ask_gathered]
  by_cases hf : isFull plan (delivered pages)
  · rw [if_pos hf]
    exact .finished rfl (hfull hf)
  · have hu := hopen (by simpa using hf)
    rw [if_neg hf]
    cases hfired : isFired cancelled script pages.length with
    | true => exact .finished rfl (.cancelled hu hfired)
    | false => exact .asking hu asks hfired

theorem underway_nil {answers : List (Except Failure Response)} {r : Request}
    (hr : plan.query.collectionRequest = .ok r) (hn : isFull plan [] = false) :
    Underway plan answers [] :=
  ⟨⟨r, hr⟩, by simp, by simp, evaluable_nil plan, hn⟩

theorem reached_first (plan : Plan) (cancelled : Bool) (script : Script) :
    Reached plan cancelled script 0 (.first plan cancelled script) := by
  cases hr : plan.query.collectionRequest with
  | error e =>
    have hstart : start plan cancelled = .finished (.error e) := by simp [start, hr]
    exact .finished hstart (.unrendered hr)
  | ok r =>
    have : Reached plan cancelled script ([] : List Page).length _ :=
      reached_ask (.first hr) (.idle hr) (underway_nil hr)
    simpa [Moment.first, start_eq_ask hr, isFired] using this

theorem Underway.evaluable_or {answers : List (Except Failure Response)}
    (h : Underway plan answers pages) (page : Page) :
    Evaluable plan (delivered (pages ++ [page])) ∨
      ∃ e, FirstFailing plan (delivered (pages ++ [page])) e := by
  obtain ⟨_, hfound, -⟩ := exists_gathers_addPage h.evaluable h.unfilled page
  cases hfound with
  | kept h => exact .inl h
  | failing h => exact .inr ⟨_, h⟩

/-- One step leads from pages to one page more, or to an end. -/
theorem Reached.next {i : Nat} {m : Moment} (h : Reached plan cancelled script i m) :
    Reached plan cancelled script (i + 1) (m.next plan) := by
  cases h with
  | finished h ends =>
    rw [Moment.next_of_finished h]
    exact .finished h ends
  | @asking pages r h asks fired =>
    rw [next_asking fired]
    obtain ⟨page, hpage⟩ | ⟨e, hnone⟩ :=
      gives_or_givesNone (replyAt (replies script) pages.length)
    · rcases h.evaluable_or page with he | ⟨e, he⟩
      · cases hlink : page.continuation with
        | none =>
          exact .finished (receive_last h.evaluable h.unfilled hpage _ he hlink)
            (.complete h fired hpage he (.inr (by simp [Page.isLast, hlink])))
        | some link =>
          have hl : (pages ++ [page]).length = pages.length + 1 := by simp
          rw [receive_linked h.evaluable h.unfilled hpage _ he hlink, ← hl]
          exact reached_ask (.next hlink) (fun hf => .complete h fired hpage he (.inl hf))
            (h.snoc hpage ⟨link, Page.continuation_eq_some_iff.mp hlink⟩ he)
      · exact .finished (receive_failing h.evaluable h.unfilled hpage _ he)
          (.failing h fired hpage he)
    · exact .finished (receive_error hnone _ _) (.unanswered h fired hnone)

theorem reached_iterate (plan : Plan) (cancelled : Bool) (script : Script) (i : Nat) :
    Reached plan cancelled script i ((Moment.next plan)^[i] (.first plan cancelled script)) := by
  induction i with
  | zero => exact reached_first plan cancelled script
  | succ i ih =>
    rw [Function.iterate_succ_apply']
    exact ih.next


theorem isFired_mono {i j : Nat} (h : i ≤ j) (hf : isFired cancelled script j = false) :
    isFired cancelled script i = false := by
  simp only [isFired, Bool.or_eq_false_iff, List.any_eq_false] at hf ⊢
  exact ⟨hf.1, fun d hd => hf.2 d (List.take_subset_take_left script h hd)⟩

/-- Behind pages that a run could get to, it comes to ask for the next one. -/
theorem iterate_ask {r : Request} (h : Underway plan (replies script) pages)
    (asks : Asks plan pages r) (hf : ∀ i < pages.length, isFired cancelled script i = false) :
    (Moment.next plan)^[pages.length] (.first plan cancelled script) =
      ⟨ask plan (isFired cancelled script pages.length) r (gathered plan pages),
        isFired cancelled script pages.length, script.drop pages.length⟩ := by
  induction pages using List.reverseRecOn generalizing r with
  | nil =>
    simp [Moment.first, start_eq_ask (asks_nil.mp asks), isFired]
  | append_singleton front page ih =>
    obtain ⟨hfront, hpage⟩ := h.of_snoc
    obtain ⟨r', hr'⟩ := hfront.exists_asks
    obtain ⟨link, hlink, rfl⟩ := asks_snoc.mp asks
    have hl : (front ++ [page]).length = front.length + 1 := by simp
    have hnow := hf front.length (by simp)
    have hprev := ih hfront hr' fun i hi => hf i (by simp; omega)
    rw [ask_gathered, hfront.unfilled, hnow] at hprev
    rw [hl, Function.iterate_succ_apply', hprev]
    simp only [Bool.false_eq_true, if_false, next_asking hnow,
      receive_linked hfront.evaluable hfront.unfilled hpage _ h.evaluable hlink]

theorem iterate_underway {r : Request} (h : Underway plan (replies script) pages)
    (asks : Asks plan pages r) (hf : isFired cancelled script pages.length = false) :
    (Moment.next plan)^[pages.length] (.first plan cancelled script) =
      ⟨.asking r (gathered plan pages), false, script.drop pages.length⟩ := by
  rw [iterate_ask h asks fun i hi => isFired_mono (Nat.le_of_lt hi) hf, ask_gathered, h.unfilled,
    hf]
  simp

/-- The first of the moments at which a run could have been cancelled ends it. -/
theorem exists_cancelled (h : Underway plan (replies script) pages)
    (hf : isFired cancelled script pages.length) :
    ∃ i, ((Moment.next plan)^[i] (.first plan cancelled script)).progress =
      .finished (.error .cancelled) := by
  induction pages using List.reverseRecOn with
  | nil =>
    obtain ⟨r, hr⟩ := h.exists_asks
    refine ⟨0, ?_⟩
    have : (Moment.next plan)^[([] : List Page).length] (.first plan cancelled script) = _ :=
      iterate_ask h hr (by simp)
    rw [ask_gathered, h.unfilled, hf] at this
    exact congrArg Moment.progress this
  | append_singleton front page ih =>
    have hfront := h.of_snoc.1
    cases hprev : isFired cancelled script front.length with
    | true => exact ih hfront hprev
    | false =>
      obtain ⟨r, hr⟩ := h.exists_asks
      refine ⟨(front ++ [page]).length, ?_⟩
      have := iterate_ask h hr fun i hi =>
        isFired_mono (Nat.le_of_lt_succ (by simpa using hi)) hprev
      rw [ask_gathered, h.unfilled, hf] at this
      exact congrArg Moment.progress this

theorem Ends.exists_finished {result : Except Failure Collected}
    (h : Ends plan cancelled script result) :
    ∃ i, ((Moment.next plan)^[i] (.first plan cancelled script)).progress = .finished result := by
  -- the step behind the pages of the run
  have hstep {pages : List Page} (h : Underway plan (replies script) pages)
      (fired : isFired cancelled script pages.length = false) :
      ((Moment.next plan)^[pages.length + 1] (.first plan cancelled script)).progress =
        receive plan (isFired cancelled script (pages.length + 1)) (gathered plan pages)
          (replyAt (replies script) pages.length) := by
    obtain ⟨r, hr⟩ := h.exists_asks
    rw [Function.iterate_succ_apply', iterate_underway h hr fired, next_asking fired]
  cases h with
  | unrendered hr => exact ⟨0, by simp [Moment.first, start, hr]⟩
  | idle hr full =>
    refine ⟨0, ?_⟩
    have hfull : isFull plan (delivered []) := full
    simp [Moment.first, start_eq_ask hr, ask_gathered, hfull]
  | cancelled h fired => exact exists_cancelled h fired
  | unanswered h fired answer => exact ⟨_, (hstep h fired).trans (receive_error answer _ _)⟩
  | failing h fired answer record =>
    exact ⟨_, (hstep h fired).trans (receive_failing h.evaluable h.unfilled answer _ record)⟩
  | @complete pages page h fired answer evaluable last =>
    refine ⟨_, (hstep h fired).trans ?_⟩
    cases hlink : page.continuation with
    | none => exact receive_last h.evaluable h.unfilled answer _ evaluable hlink
    | some link =>
      have hfull := last.resolve_right (by simp [Page.isLast, hlink])
      rw [receive_linked h.evaluable h.unfilled answer _ evaluable hlink, ask_gathered, hfull,
        if_pos rfl]

end Moments

theorem run_result_eq_iff {plan : Plan} {cancelled : Bool} {script : Script}
    {result : Except Failure Collected} :
    (run Script.channel plan cancelled script).result.result = result ↔
      Ends plan cancelled script result := by
  have hrun := (follows_run plan cancelled script).result
  refine ⟨?_, fun h => ?_⟩
  · rintro rfl
    generalize script.length + 1 = n at hrun
    have hreached := reached_iterate plan cancelled script n
    generalize (Moment.next plan)^[n] (.first plan cancelled script) = last at hrun hreached
    cases hreached with
    | asking => contradiction
    | finished h ends =>
      obtain rfl := Progress.finished.inj (h.symm.trans hrun)
      exact ends
  · obtain ⟨i, hi⟩ := h.exists_finished
    exact Moment.finished_unique hrun hi

/-- A request is sent behind pages at which the run is still underway, and it asks for what comes
next. -/
theorem run_requests_iff {plan : Plan} {cancelled : Bool} {script : Script} {i : Nat}
    {r : Request} :
    (run Script.channel plan cancelled script).requests[i]? = some r ↔
      ∃ pages, pages.length = i ∧ Underway plan (replies script) pages ∧
        isFired cancelled script i = false ∧ Asks plan pages r := by
  rw [(follows_run plan cancelled script).requests]
  refine ⟨?_, ?_⟩
  · rintro ⟨c, hc⟩
    have hreached := reached_iterate plan cancelled script i
    generalize (Moment.next plan)^[i] (.first plan cancelled script) = m at hc hreached
    cases hreached with
    | @asking pages r' h asks fired =>
      obtain ⟨rfl, -⟩ := Progress.asking.inj hc
      exact ⟨pages, rfl, h, fired, asks⟩
    | finished h => rw [h] at hc; contradiction
  · rintro ⟨pages, rfl, h, fired, asks⟩
    exact ⟨_, by rw [iterate_underway h asks fired]⟩

end Paging

end RecordQuery
