import Mathlib
import RecordQuery.Paging.Run

/-!
# What a run gathers

The records of the pages that have come in are looked at in order until enough are held or one of
them has no truth value. What is held then depends on the records alone and not on how they are
split into pages.
-/
namespace RecordQuery.Paging

/-- Whether a record is kept. All records are if there is no local predicate. -/
def wants (plan : Plan) (record : Json) : Except Failure Bool :=
  match plan.query.localFilter with
  | some p => p.holds plan.style record
  | none => .ok true

def kept (plan : Plan) (records : List Json) : List Json :=
  records.filter fun record => (wants plan record).toOption = some true

/-- Whether as many records are kept of these as the limit allows. -/
def isFull (plan : Plan) (records : List Json) : Bool :=
  plan.query.limit.any (· ≤ (kept plan records).length)

/-- Every record that is looked at before enough is held has a truth value. -/
def Evaluable (plan : Plan) (records : List Json) : Prop :=
  ∀ before record after, records = before ++ record :: after → isFull plan before = false →
    ∃ b, wants plan record = .ok b

/-- The first record without a truth value is looked at before enough is held. -/
def FirstFailing (plan : Plan) (records : List Json) (e : Failure) : Prop :=
  ∃ before record after, records = before ++ record :: after ∧ Evaluable plan before ∧
    isFull plan before = false ∧ wants plan record = .error e

def upTo (limit : Option Nat) (records : List Json) : List Json :=
  match limit with
  | some n => records.take n
  | none => records

/-- What becomes of a list of records: those that are kept, as far as they are needed, or the
failure of the first one that is looked at in vain. -/
inductive Gathers (plan : Plan) (records : List Json) : Except Failure (List Json) → Prop
  | kept (h : Evaluable plan records) :
      Gathers plan records (.ok (upTo plan.query.limit (kept plan records)))
  | failing {e : Failure} (h : FirstFailing plan records e) : Gathers plan records (.error e)

/-- Two places in one list are the same, or one is in front of the other. -/
theorem places {α : Type} {a a' b b' : List α} {x y : α} (h : a ++ x :: a' = b ++ y :: b') :
    (a = b ∧ x = y ∧ a' = b') ∨ (∃ more, b = a ++ x :: more ∧ a' = more ++ y :: b') ∨
      ∃ more, a = b ++ y :: more ∧ b' = more ++ x :: a' := by
  obtain ⟨more, rfl, he⟩ | ⟨more, rfl, he⟩ := List.append_eq_append_iff.mp h
  · cases more with
    | nil => exact .inl ⟨by simp, List.cons.inj he⟩
    | cons z more =>
      obtain ⟨rfl, rfl⟩ := List.cons.inj he
      exact .inr (.inl ⟨more, rfl, rfl⟩)
  · cases more with
    | nil =>
      obtain ⟨rfl, rfl⟩ := List.cons.inj he
      exact .inl ⟨by simp, rfl, rfl⟩
    | cons z more =>
      obtain ⟨rfl, rfl⟩ := List.cons.inj he
      exact .inr (.inr ⟨more, rfl, rfl⟩)

section Limits

theorem isEnough_mono {limit : Option Nat} {m n : Nat} (h : m ≤ n) (he : isEnough limit m) :
    isEnough limit n := by
  cases limit with
  | none => exact he
  | some l =>
    simp only [isEnough, Option.any_some, decide_eq_true_eq] at he ⊢
    omega

theorem upTo_of_not_isEnough {limit : Option Nat} {records : List Json}
    (h : isEnough limit records.length = false) : upTo limit records = records := by
  cases limit with
  | none => rfl
  | some l =>
    simp only [isEnough, Option.any_some, decide_eq_false_iff_not] at h
    exact List.take_of_length_le (by omega)

/-- Nothing behind the record that makes up the limit counts. -/
theorem upTo_append {limit : Option Nat} {records : List Json} {record : Json}
    (h : isEnough limit records.length = false) (he : isEnough limit (records.length + 1))
    (more : List Json) : upTo limit (records ++ [record] ++ more) = records ++ [record] := by
  cases limit with
  | none => simp [isEnough] at he
  | some l =>
    simp only [isEnough, Option.any_some, decide_eq_false_iff_not, decide_eq_true_eq] at h he
    have hl : (records ++ [record]).length = l := by
      rw [List.length_append, List.length_singleton]
      omega
    exact List.take_left' hl

end Limits

section Records

variable {plan : Plan} {before records : List Json}

theorem kept_append (plan : Plan) (before records : List Json) :
    kept plan (before ++ records) = kept plan before ++ kept plan records :=
  List.filter_append ..

/-- Nothing is wanted if enough is held before any record is looked at. -/
theorem isFull_nil_iff : isFull plan [] ↔ plan.query.limit = some 0 := by
  cases hl : plan.query.limit <;> simp [isFull, kept, hl]

theorem isFull_append (h : isFull plan before) (records : List Json) :
    isFull plan (before ++ records) := by
  refine isEnough_mono ?_ h
  simp [kept_append]

theorem isFull_eq_false_of_append (h : isFull plan (before ++ records) = false) :
    isFull plan before = false := by
  by_contra hf
  rw [isFull_append (by simpa using hf)] at h
  contradiction

theorem Evaluable.of_append (h : Evaluable plan (before ++ records)) : Evaluable plan before := by
  rintro b record after rfl hn
  exact h b record (after ++ records) (by simp) hn

/-- What comes after enough is held is not looked at. -/
theorem Evaluable.append (h : Evaluable plan before) (hf : isFull plan before)
    (records : List Json) : Evaluable plan (before ++ records) := by
  intro b record after he hn
  obtain ⟨more, rfl, hafter⟩ | ⟨more, rfl, hafter⟩ := List.append_eq_append_iff.mp he
  · rw [isFull_append hf] at hn
    contradiction
  · cases more with
    | nil =>
      rw [List.append_nil] at hf
      rw [hf] at hn
      contradiction
    | cons x more =>
      obtain ⟨rfl, -⟩ := List.cons.inj hafter
      exact h b record more rfl hn

theorem evaluable_nil (plan : Plan) : Evaluable plan [] := by
  intro b record after h
  simp at h

theorem Evaluable.snoc {record : Json} (h : Evaluable plan before) {b : Bool}
    (hb : wants plan record = .ok b) : Evaluable plan (before ++ [record]) := by
  intro front r after he hn
  obtain ⟨-, rfl, -⟩ | ⟨more, -, hmore⟩ | ⟨more, rfl, -⟩ := places he
  · exact ⟨b, hb⟩
  · simp at hmore
  · exact h front r more rfl hn

theorem Evaluable.not_firstFailing {e : Failure} (h : Evaluable plan records) :
    ¬FirstFailing plan records e := by
  rintro ⟨before, record, after, he, -, hn, hw⟩
  obtain ⟨b, hb⟩ := h before record after he hn
  rw [hw] at hb
  contradiction

theorem FirstFailing.unique {e e' : Failure} (h : FirstFailing plan records e)
    (h' : FirstFailing plan records e') : e = e' := by
  obtain ⟨before, record, after, rfl, he, hn, hw⟩ := h
  obtain ⟨before', record', after', hsplit, he', hn', hw'⟩ := h'
  obtain ⟨-, rfl, -⟩ | ⟨more, rfl, -⟩ | ⟨more, rfl, -⟩ := places hsplit
  · exact Except.error.inj (hw.symm.trans hw')
  · exact absurd ⟨before, record, more, rfl, he, hn, hw⟩ he'.not_firstFailing
  · exact absurd ⟨before', record', more, rfl, he', hn', hw'⟩ he.not_firstFailing

theorem kept_snoc {record : Json} {b : Bool} (h : wants plan record = .ok b) :
    kept plan (before ++ [record]) =
      if b then kept plan before ++ [record] else kept plan before := by
  rw [kept_append]
  cases b <;> simp [kept, h, Except.toOption]

/-- The record that makes up the limit is the last one held. -/
theorem upTo_kept {record : Json} {b : Bool} (hw : wants plan record = .ok b)
    (hn : isFull plan before = false) (hf : isFull plan (before ++ [record]))
    (rest : List Json) :
    upTo plan.query.limit (kept plan (before ++ [record] ++ rest)) =
      kept plan (before ++ [record]) := by
  cases b with
  | false =>
    rw [isFull, kept_snoc hw, if_neg (by simp), ← isFull, hn] at hf
    contradiction
  | true =>
    have hk : kept plan (before ++ [record]) = kept plan before ++ [record] := kept_snoc hw
    have henough : isEnough plan.query.limit ((kept plan before).length + 1) := by
      simpa [isFull, isEnough, hk] using hf
    rw [kept_append, hk, upTo_append hn henough]

theorem addMatches_cons {p : Predicate} (hp : plan.query.localFilter = some p) {record : Json}
    {b : Bool} (hw : wants plan record = .ok b) (hn : isFull plan before = false)
    (rest : List Json) :
    addMatches plan.style p plan.query.limit (kept plan before) (record :: rest) =
      if isFull plan (before ++ [record]) then .ok (kept plan (before ++ [record]))
      else addMatches plan.style p plan.query.limit (kept plan (before ++ [record])) rest := by
  have hr : p.holds plan.style record = .ok b := by simpa [wants, hp] using hw
  have hk : kept plan (before ++ [record]) = _ := kept_snoc hw
  cases b with
  | false =>
    simp only [Bool.false_eq_true, if_false] at hk
    have hn' : isFull plan (before ++ [record]) = false := by rwa [isFull, hk]
    simp [addMatches, hr, bind, Except.bind, hn', hk]
  | true =>
    simp only [if_true] at hk
    simp [addMatches, hr, bind, Except.bind, pure, Except.pure, isFull, isEnough, hk]

theorem gathers_addMatches {p : Predicate} (hp : plan.query.localFilter = some p)
    (he : Evaluable plan before) (hn : isFull plan before = false) :
    Gathers plan (before ++ records)
      (addMatches plan.style p plan.query.limit (kept plan before) records) := by
  -- what is held is always what is kept of the records in front
  induction records generalizing before with
  | nil =>
    rw [List.append_nil, addMatches, ← upTo_of_not_isEnough hn]
    exact .kept he
  | cons record rest ih =>
    cases hw : wants plan record with
    | error e =>
      have hr : p.holds plan.style record = .error e := by simpa [wants, hp] using hw
      simp only [addMatches, hr]
      exact .failing ⟨before, record, rest, rfl, he, hn, hw⟩
    | ok b =>
      rw [addMatches_cons hp hw hn, ← List.singleton_append, ← List.append_assoc]
      by_cases hf : isFull plan (before ++ [record])
      · rw [if_pos hf, ← upTo_kept hw hn hf rest]
        exact .kept ((he.snoc hw).append hf rest)
      · rw [if_neg hf]
        exact ih (he.snoc hw) (by simpa using hf)

theorem wants_of_localFilter_eq_none (hp : plan.query.localFilter = none) (record : Json) :
    wants plan record = .ok true := by
  simp [wants, hp]

theorem gathers_addAll (hp : plan.query.localFilter = none) (before records : List Json) :
    Gathers plan (before ++ records)
      (.ok (addAll plan.query.limit (kept plan before) records)) := by
  have hwants := wants_of_localFilter_eq_none hp
  have hkept (records : List Json) : kept plan records = records :=
    List.filter_eq_self.mpr fun record _ => by simp [hwants, Except.toOption]
  have heval : Evaluable plan (before ++ records) := fun _ record _ _ _ => ⟨true, hwants record⟩
  have := Gathers.kept heval
  rw [hkept] at this
  rw [hkept before]
  exact this

end Records

section Pages

/-- The records of pages, in the order of the service. -/
def delivered (pages : List Page) : List Json := pages.flatMap (·.records)

/-- What is held after some pages. -/
def gathered (plan : Plan) (pages : List Page) : Collected where
  records := upTo plan.query.limit (kept plan (delivered pages))
  totalCount := pages.findSome? (·.totalCount)
  pages := pages.length

variable {plan : Plan} {pages : List Page}

theorem delivered_append (pages more : List Page) :
    delivered (pages ++ more) = delivered pages ++ delivered more := List.flatMap_append

theorem delivered_snoc (pages : List Page) (page : Page) :
    delivered (pages ++ [page]) = delivered pages ++ page.records := by
  simp [delivered]

theorem isEnough_gathered (plan : Plan) (pages : List Page) :
    isEnough plan.query.limit (gathered plan pages).records.length =
      isFull plan (delivered pages) := by
  unfold gathered isFull upTo
  cases plan.query.limit with
  | none => rfl
  | some n => simp [isEnough]

theorem exists_gathers_addPage (he : Evaluable plan (delivered pages))
    (hn : isFull plan (delivered pages) = false) (page : Page) :
    ∃ found, Gathers plan (delivered (pages ++ [page])) found ∧
      addPage plan (gathered plan pages) page =
        found.map fun records => { gathered plan (pages ++ [page]) with records } := by
  have hheld : (gathered plan pages).records = kept plan (delivered pages) :=
    upTo_of_not_isEnough hn
  have hcount : (gathered plan pages).totalCount.or page.totalCount =
      (gathered plan (pages ++ [page])).totalCount := by
    simp [gathered, List.findSome?_append]
  have hpages : (gathered plan pages).pages + 1 = (gathered plan (pages ++ [page])).pages := by
    simp [gathered]
  rw [delivered_snoc]
  unfold addPage
  rw [hheld, hcount, hpages]
  cases hp : plan.query.localFilter with
  | none => exact ⟨_, gathers_addAll hp _ _, rfl⟩
  | some p => exact ⟨_, gathers_addMatches hp he hn, rfl⟩

theorem addPage_eq_ok_iff (he : Evaluable plan (delivered pages))
    (hn : isFull plan (delivered pages) = false) {page : Page} {c : Collected} :
    addPage plan (gathered plan pages) page = .ok c ↔
      Evaluable plan (delivered (pages ++ [page])) ∧ c = gathered plan (pages ++ [page]) := by
  obtain ⟨found, hfound, hadd⟩ := exists_gathers_addPage he hn page
  rw [hadd]
  cases hfound with
  | kept h =>
    have hsame : { gathered plan (pages ++ [page]) with
        records := upTo plan.query.limit (kept plan (delivered (pages ++ [page]))) } =
        gathered plan (pages ++ [page]) := rfl
    simp [Except.map, hsame, h, eq_comm]
  | failing h =>
    have hnot : ¬Evaluable plan (delivered (pages ++ [page])) := fun he => he.not_firstFailing h
    simp [Except.map, hnot]

theorem addPage_eq_error_iff (he : Evaluable plan (delivered pages))
    (hn : isFull plan (delivered pages) = false) {page : Page} {e : Failure} :
    addPage plan (gathered plan pages) page = .error e ↔
      FirstFailing plan (delivered (pages ++ [page])) e := by
  obtain ⟨found, hfound, hadd⟩ := exists_gathers_addPage he hn page
  rw [hadd]
  cases hfound with
  | kept h =>
    simp [Except.map, h.not_firstFailing]
  | failing h =>
    refine ⟨fun he => ?_, fun he => ?_⟩
    · rwa [← Except.error.inj he]
    · rw [h.unique he, Except.map]

end Pages

end RecordQuery.Paging
