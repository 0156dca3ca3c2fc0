import RecordQuery.Proofs.Paging.Result

/-!
# Runs with limits

A smaller limit stops a run earlier and changes nothing before. What the run with the smaller limit
holds is the front of what the other one holds, its requests are the first of the other's, and it
fails only where the other one does.
-/
namespace RecordQuery.Paging

/-- No limit is larger than any limit. -/
def AtMost (limit limit' : Option Nat) : Prop := ∀ n ∈ limit', ∃ m ∈ limit, m ≤ n

/-- The same plan with another limit. -/
def Plan.limited (plan : Plan) (limit : Option Nat) : Plan :=
  { plan with query := { plan.query with limit } }

variable {plan : Plan} {limit limit' : Option Nat} {answers : List (Except Failure Response)}
  {records : List Json}

theorem AtMost.isEnough (h : AtMost limit limit') {held : Nat} (he : isEnough limit' held) :
    isEnough limit held := by
  cases limit' with
  | none => contradiction
  | some n =>
    obtain ⟨m, rfl, hmn⟩ := h n rfl
    simp only [Paging.isEnough, Option.any_some, decide_eq_true_eq] at he ⊢
    exact hmn.trans he

theorem AtMost.upTo_upTo (h : AtMost limit limit') (records : List Json) :
    upTo limit (upTo limit' records) = upTo limit records := by
  cases limit' with
  | none => rfl
  | some n =>
    obtain ⟨m, rfl, hmn⟩ := h n rfl
    simp [upTo, List.take_take, min_eq_left hmn]

/-- Once enough is held, more records make no difference. -/
theorem upTo_append_of_isEnough (h : isEnough limit records.length) (more : List Json) :
    upTo limit (records ++ more) = upTo limit records := by
  cases limit with
  | none => contradiction
  | some n =>
    simp only [isEnough, Option.any_some, decide_eq_true_eq] at h
    exact List.take_append_of_le_length h

section Records

theorem isFull_limited (plan : Plan) (limit : Option Nat) (records : List Json) :
    isFull (plan.limited limit) records = isEnough limit (kept plan records).length := rfl

theorem AtMost.isFull_eq_false (h : AtMost limit limit')
    (hn : isFull (plan.limited limit) records = false) :
    isFull (plan.limited limit') records = false := by
  rw [isFull_limited] at hn ⊢
  by_contra hf
  rw [h.isEnough (by simpa using hf)] at hn
  contradiction

/-- Where the smaller limit is not met, all records have been looked at. -/
theorem Evaluable.limited (he : Evaluable (plan.limited limit) records)
    (hn : isFull (plan.limited limit) records = false) (limit' : Option Nat) :
    Evaluable (plan.limited limit') records := by
  rintro before record after rfl -
  exact he before record after rfl (isFull_eq_false_of_append hn)

theorem FirstFailing.limited {e : Failure} (hf : FirstFailing (plan.limited limit) records e)
    (h : AtMost limit limit') : FirstFailing (plan.limited limit') records e := by
  obtain ⟨before, record, after, rfl, he, hn, hw⟩ := hf
  exact ⟨before, record, after, rfl, he.limited hn limit', h.isFull_eq_false hn, hw⟩

end Records

section Runs

variable {pages : List Page}

theorem Underway.limited (hu : Underway (plan.limited limit) answers pages)
    (h : AtMost limit limit') : Underway (plan.limited limit') answers pages where
  renders := hu.renders
  decoded := hu.decoded
  linked := hu.linked
  evaluable := hu.evaluable.limited hu.unfilled limit'
  unfilled := h.isFull_eq_false hu.unfilled

theorem Asks.limited {r : Request} (asks : Asks (plan.limited limit) pages r)
    (limit' : Option Nat) : Asks (plan.limited limit') pages r := by
  cases asks with
  | first h => exact .first h
  | next h => exact .next h

/-- A run with a smaller limit fails only as the other run does. -/
theorem FirstFailure.limited {e : Failure} (hf : FirstFailure (plan.limited limit) answers e)
    (h : AtMost limit limit') : FirstFailure (plan.limited limit') answers e := by
  cases hf with
  | query h => exact .query h
  | answer hu answer => exact .answer (hu.limited h) answer
  | record hu answer record => exact .record (hu.limited h) answer (record.limited h)

theorem run_requests_limited (h : AtMost limit limit') :
    (run Script.channel (plan.limited limit) false (uncancelled answers)).requests <+:
      (run Script.channel (plan.limited limit') false (uncancelled answers)).requests := by
  rw [List.prefix_iff_getElem?]
  intro i hi
  obtain ⟨pages, hl, hu, hf, asks⟩ := run_requests_iff.mp (List.getElem?_eq_getElem hi)
  exact run_requests_iff.mpr ⟨pages, hl, hu.limited h, hf, asks.limited limit'⟩

/-- The run with the larger limit has the pages of the other run, and may have more behind them. -/
theorem Completes.exists_more {pages' : List Page} (h : AtMost limit limit')
    (hr : ∃ r, plan.query.collectionRequest = .ok r)
    (hc : Completes (plan.limited limit) answers pages)
    (least : ∀ shorter, Completes (plan.limited limit) answers shorter →
      pages.length ≤ shorter.length)
    (hc' : Completes (plan.limited limit') answers pages') : ∃ more, pages' = pages ++ more := by
  obtain ⟨r, hr⟩ := hr
  suffices hl : pages.length ≤ pages'.length by
    obtain ⟨more, hmore⟩ := pages_prefix hc'.decoded hc.decoded hl
    exact ⟨more, hmore.symm⟩
  rcases List.eq_nil_or_concat pages with rfl | ⟨front, page, rfl⟩
  · simp
  · rw [List.concat_eq_append] at hc least ⊢
    have hu : Underway (plan.limited limit) answers front := hc.underway hr least
    simpa using (hu.limited h).lt_of_completes hc'

/-- What is gathered up to the smaller limit is the front of what is gathered up to the other. -/
theorem records_gathered_limited {more : List Page} (h : AtMost limit limit')
    (hc : Completes (plan.limited limit) answers pages)
    (hc' : Completes (plan.limited limit') answers (pages ++ more)) :
    (gathered (plan.limited limit) pages).records =
      upTo limit (gathered (plan.limited limit') (pages ++ more)).records := by
  change upTo limit (kept plan (delivered pages)) =
    upTo limit (upTo limit' (kept plan (delivered (pages ++ more))))
  rw [h.upTo_upTo]
  obtain hfull | ⟨page, hpage, hlast⟩ := hc.ended
  · rw [isFull_limited] at hfull
    rw [delivered_append, kept_append, upTo_append_of_isEnough hfull]
  · -- behind a page without a link there is no other
    cases more with
    | nil => rw [List.append_nil]
    | cons next more =>
      obtain ⟨link, hlink, hne⟩ :=
        hc'.linked page (mem_dropLast_of_mem (List.mem_of_getLast? hpage))
      rw [hlink] at hlast
      simp [hne] at hlast

end Runs

/-- If the run with the larger of two limits succeeds, the run with the smaller one succeeds. It
has the first records of the other, as many as its limit allows; it takes no more pages, and its
requests are the first of the other's. -/
theorem run_limited (plan : Plan) (answers : List (Except Failure Response))
    {limit limit' : Option Nat} (h : AtMost limit limit') {c' : Collected} :
    let t (limit : Option Nat) :=
      run Script.channel (plan.limited limit) false (uncancelled answers)
    (t limit').result.result = .ok c' →
      ∃ c, (t limit).result.result = .ok c ∧ c.records = upTo limit c'.records ∧
        c.pages ≤ c'.pages ∧ (t limit).requests <+: (t limit').requests := by
  intro t hc'
  cases hc : (t limit).result.result with
  | error e =>
    have hfailure := ends_error_iff.mp (run_result_eq_iff.mp hc)
    have := run_result_eq_iff.mpr (ends_error_iff.mpr (hfailure.limited h))
    rw [hc'] at this
    contradiction
  | ok c =>
    obtain ⟨hr, pages, hpages, least, rfl⟩ := ends_ok_iff.mp (run_result_eq_iff.mp hc)
    obtain ⟨-, pages', hpages', -, rfl⟩ := ends_ok_iff.mp (run_result_eq_iff.mp hc')
    obtain ⟨more, rfl⟩ := hpages.exists_more h hr least hpages'
    have hlength : pages.length ≤ (pages ++ more).length := by simp
    exact ⟨_, rfl, records_gathered_limited h hpages hpages', hlength, run_requests_limited h⟩

/-- Two pages, of whose records the second and the last fulfil the local predicate: one record is
had from the first page, and for three both pages are taken. -/
theorem run_limited_pages :
    let wanted : Predicate := .call .contains (.field .current) [.literal (.string "b")]
    let plan : Plan := ⟨{ entity := "Customers", localFilter := some wanted }, .native⟩
    let first : Response :=
      ⟨200, [], Text.Utf8.encode "[\"Customers/2\",[\"A\",\"B\"]]".toList⟩
    let last : Response := ⟨200, [], Text.Utf8.encode "[null,[\"C\",\"AB\"]]".toList⟩
    let t (limit : Option Nat) :=
      run Script.channel (plan.limited limit) false (uncancelled [.ok first, .ok last])
    AtMost (some 1) (some 3) ∧ ∃ c', (t (some 3)).result.result = .ok c' ∧
      ∃ c, (t (some 1)).result.result = .ok c ∧ c.records = c'.records.take 1 ∧
        c.pages ≤ c'.pages ∧ (t (some 1)).requests <+: (t (some 3)).requests := by
  intro wanted plan first last t
  have hlimits : AtMost (some 1) (some 3) := by simp [AtMost]
  have hok : (t (some 3)).result.result.isOk := by decide +kernel
  cases hc' : (t (some 3)).result.result with
  | error e => simp [hc', Except.isOk, Except.toBool] at hok
  | ok c' => exact ⟨hlimits, c', rfl, run_limited plan [.ok first, .ok last] hlimits hc'⟩

end RecordQuery.Paging
