import RecordQuery.Proofs.Failure
import RecordQuery.Proofs.Paging.Result

/-!
# Cancelled runs

A cancelled run does what the run that nobody cancels does, up to the moment of cancellation: the
requests before it are the same, and none follows. It comes out cancelled if the other run sends one
more request, and like the other run if that one is through.
-/
namespace RecordQuery.Paging

/-- Answers with a cancellation while the one of the given number comes in. They are counted from
one, so that moment zero is the one before all of them. -/
def cancelledAt (moment : Nat) (answers : List (Except Failure Response)) : Script :=
  answers.mapIdx fun i reply => ⟨reply, i + 1 = moment⟩

variable {plan : Plan} {answers : List (Except Failure Response)} {moment : Nat}

@[simp] theorem replies_cancelledAt (moment : Nat) (answers : List (Except Failure Response)) :
    replies (cancelledAt moment answers) = answers := by
  apply List.ext_getElem?
  intro i
  simp [replies, cancelledAt, Function.comp_def]

/-- Cancelled from the given moment on. -/
theorem isFired_cancelledAt {i : Nat} (hi : i ≤ answers.length) :
    isFired (moment = 0) (cancelledAt moment answers) i = decide (moment ≤ i) := by
  induction i with
  | zero => simp [isFired]
  | succ i ih =>
    have hlt : i < (cancelledAt moment answers).length := by simpa [cancelledAt] using hi
    rw [isFired_succ, ih (Nat.le_of_succ_le hi), List.getElem?_eq_getElem hlt]
    simp only [cancelledAt, List.getElem_mapIdx, Option.any_some, ← Bool.decide_or]
    exact decide_eq_decide.mpr (by omega)

/-- Where no answer is left there is no page. -/
theorem Underway.length_le {pages : List Page} (h : Underway plan answers pages) :
    pages.length ≤ answers.length := by
  by_contra hlt
  obtain ⟨response, hreply, -⟩ :=
    h.decoded answers.length _ (List.getElem?_eq_getElem (Nat.lt_of_not_le hlt))
  simp [replyAt] at hreply

/-- Behind pages that have come in, the run is still open exactly before the moment. -/
theorem isFired_cancelledAt_iff {pages : List Page} (h : Underway plan answers pages) :
    isFired (moment = 0) (cancelledAt moment answers) pages.length = false ↔
      pages.length < moment := by
  rw [isFired_cancelledAt h.length_le]
  simp

/-- The request behind some pages is sent by a run that nobody cancels. -/
theorem Underway.lt_requests {pages : List Page} (h : Underway plan answers pages) :
    pages.length < (run Script.channel plan false (uncancelled answers)).requests.length := by
  obtain ⟨r, hr⟩ := h.exists_asks
  have hsent : (run Script.channel plan false (uncancelled answers)).requests[pages.length]? =
      some r := by
    rw [run_requests_iff, replies_uncancelled]
    exact ⟨pages, rfl, h, isFired_uncancelled .., hr⟩
  exact (List.getElem?_eq_some_iff.mp hsent).1

theorem run_requests_cancelledAt (plan : Plan) (moment : Nat)
    (answers : List (Except Failure Response)) :
    (run Script.channel plan (moment = 0) (cancelledAt moment answers)).requests =
      (run Script.channel plan false (uncancelled answers)).requests.take moment := by
  apply List.ext_getElem?
  intro i
  apply Option.ext
  intro r
  have htake (rs : List Request) :
      (rs.take moment)[i]? = some r ↔ i < moment ∧ rs[i]? = some r := by
    rw [List.getElem?_take]
    split <;> simp_all
  rw [htake, run_requests_iff, run_requests_iff, replies_cancelledAt, replies_uncancelled]
  constructor
  · rintro ⟨pages, rfl, hu, hf, asks⟩
    exact ⟨(isFired_cancelledAt_iff hu).mp hf, pages, rfl, hu, isFired_uncancelled .., asks⟩
  · rintro ⟨hlt, pages, rfl, hu, -, asks⟩
    exact ⟨pages, rfl, hu, (isFired_cancelledAt_iff hu).mpr hlt, asks⟩

/-- A run that comes to its end before the moment of cancellation ends all the same. -/
theorem Ends.cancelledAt {result : Except Failure Collected}
    (h : Ends plan false (uncancelled answers) result)
    (hsent : (run Script.channel plan false (uncancelled answers)).requests.length ≤ moment) :
    Ends plan (moment = 0) (cancelledAt moment answers) result := by
  -- the last answer that is waited for comes before the moment
  have hopen {pages : List Page} (hu : Underway plan (replies (uncancelled answers)) pages) :
      Underway plan (replies (Paging.cancelledAt moment answers)) pages ∧
        isFired (moment = 0) (Paging.cancelledAt moment answers) pages.length = false := by
    rw [replies_uncancelled] at hu
    rw [replies_cancelledAt, isFired_cancelledAt_iff hu]
    exact ⟨hu, Nat.lt_of_lt_of_le hu.lt_requests hsent⟩
  have hreplies : replies (uncancelled answers) =
      replies (Paging.cancelledAt moment answers) := by simp
  cases h with
  | unrendered h => exact .unrendered h
  | idle h full => exact .idle h full
  | cancelled h fired => simp at fired
  | unanswered h fired answer =>
    obtain ⟨hu, hf⟩ := hopen h
    exact .unanswered hu hf (hreplies ▸ answer)
  | failing h fired answer record =>
    obtain ⟨hu, hf⟩ := hopen h
    exact .failing hu hf (hreplies ▸ answer) record
  | complete h fired answer evaluable last =>
    obtain ⟨hu, hf⟩ := hopen h
    exact .complete hu hf (hreplies ▸ answer) evaluable last

theorem run_result_cancelledAt (plan : Plan) (moment : Nat)
    (answers : List (Except Failure Response)) :
    let t := run Script.channel plan false (uncancelled answers)
    (run Script.channel plan (moment = 0) (cancelledAt moment answers)).result.result =
      if moment < t.requests.length then .error .cancelled else t.result.result := by
  intro t
  rw [run_result_eq_iff]
  split
  · next hlt =>
    obtain ⟨pages, hl, hu, -, -⟩ := run_requests_iff.mp (List.getElem?_eq_getElem hlt)
    rw [replies_uncancelled] at hu
    have hu' : Underway plan (replies (cancelledAt moment answers)) pages := by
      rwa [replies_cancelledAt]
    refine .cancelled hu' ?_
    rw [isFired_cancelledAt hu.length_le, hl]
    simp
  · next hlt => exact (run_result_eq_iff.mp rfl).cancelledAt (Nat.le_of_not_lt hlt)

theorem not_givesNone_cancelled (h : .error .cancelled ∉ answers) (i : Nat) :
    ¬GivesNone (replyAt answers i) .cancelled := by
  generalize hr : replyAt answers i = reply
  rintro (rfl | _)
  unfold replyAt at hr
  rcases Nat.lt_or_ge i answers.length with hi | hi
  · simp only [List.getD_eq_getElem?_getD, List.getElem?_eq_getElem hi, Option.getD_some] at hr
    exact h (hr ▸ List.getElem_mem hi)
  · simp [List.getElem?_eq_none hi, Script.exhausted] at hr

/-- Nothing but an answer makes a run look cancelled that nobody cancels. -/
theorem run_uncancelled_ne_cancelled (plan : Plan) (h : .error .cancelled ∉ answers) :
    (run Script.channel plan false (uncancelled answers)).result.result ≠ .error .cancelled := by
  intro hresult
  cases ends_error_iff.mp (run_result_eq_iff.mp hresult) with
  | query hq =>
    obtain ⟨node, hnode⟩ := plan.query.failsOnly_collectionRequest _ hq
    contradiction
  | answer _ answer => exact not_givesNone_cancelled h _ answer
  | record _ _ record =>
    obtain ⟨-, record, -, -, -, -, hw⟩ := record
    unfold wants at hw
    split at hw
    · obtain ⟨node, hnode⟩ := Evaluation.failsOnly_truth _ _ _ _ hw
      contradiction
    · contradiction

/-- Compared with the run that nobody cancels, a run that is cancelled at some moment sends the
requests before that moment and none after it. It comes out cancelled if the other run sends one
more, and otherwise has the result of the other run; so, unless the service itself answers so, it
comes out cancelled only if the other run sends one more. -/
theorem run_cancelledAt (plan : Plan) (answers : List (Except Failure Response)) (moment : Nat) :
    let t := run Script.channel plan false (uncancelled answers)
    let t' := run Script.channel plan (moment = 0) (cancelledAt moment answers)
    t'.requests = t.requests.take moment ∧
      (moment < t.requests.length → t'.result.result = .error .cancelled) ∧
      (t.requests.length ≤ moment → t'.result.result = t.result.result) ∧
      (.error .cancelled ∉ answers →
        (t'.result.result = .error .cancelled ↔ moment < t.requests.length)) := by
  intro t t'
  have hresult : t'.result.result =
      if moment < t.requests.length then .error .cancelled else t.result.result :=
    run_result_cancelledAt plan moment answers
  refine ⟨run_requests_cancelledAt plan moment answers, fun hlt => ?_, fun hle => ?_, fun h => ?_⟩
  · rw [hresult, if_pos hlt]
  · rw [hresult, if_neg (Nat.not_lt_of_le hle)]
  · rw [hresult]
    have hne := run_uncancelled_ne_cancelled plan h
    by_cases hlt : moment < t.requests.length
    · simp [hlt]
    · simpa [hlt] using hne

/-- Two pages: cancelled while the first one comes in, the run stops there; cancelled while the last
one comes in, it has its records. -/
theorem run_cancelledAt_pages :
    let plan : Plan := ⟨{ entity := "Customers" }, .native⟩
    let first : Response := ⟨200, [], Text.Utf8.encode "[\"Customers/2\",[1]]".toList⟩
    let last : Response := ⟨200, [], Text.Utf8.encode "[null,[2]]".toList⟩
    let answers := [.ok first, .ok last]
    let t := run Script.channel plan false (uncancelled answers)
    let t' (moment : Nat) := run Script.channel plan (moment = 0) (cancelledAt moment answers)
    ((t' 1).requests = t.requests.take 1 ∧ 1 < t.requests.length ∧
        (t' 1).result.result = .error .cancelled) ∧
      (t.requests.length ≤ 2 ∧ (t' 2).result.result = t.result.result) ∧
      .error .cancelled ∉ answers ∧ (t' 2).result.result ≠ .error .cancelled := by
  intro plan first last answers t t'
  have hlength : t.requests.length = 2 := by decide +kernel
  have hanswers : .error .cancelled ∉ answers := by simp [answers]
  obtain ⟨hrequests, hcancelled, -, -⟩ := run_cancelledAt plan answers 1
  obtain ⟨-, -, hsame, hiff⟩ := run_cancelledAt plan answers 2
  have hlt : 1 < t.requests.length := by omega
  have hle : t.requests.length ≤ 2 := by omega
  exact ⟨⟨hrequests, hlt, hcancelled hlt⟩, ⟨hle, hsame hle⟩, hanswers,
    fun h => Nat.not_lt_of_le hle ((hiff hanswers).mp h)⟩

end RecordQuery.Paging
