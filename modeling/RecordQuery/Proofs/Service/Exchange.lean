import RecordQuery.Proofs.Result
import RecordQuery.Proofs.Service.Resolution
import RecordQuery.Service.Exchange

/-!
# Exchanges attempt by attempt

An exchange is a row of attempts, each with a token of its own. Only a reply that refuses the token
leads to another attempt, as long as the bound on retries allows it, and the last attempt decides
how the exchange ends.
-/
namespace RecordQuery.Service

section Attempts

variable {σ : Type} {line : Line σ} {r : Request} {url : Url}

/-- How attempts go on a line: the last one has no token, no reply, or a reply that is not tried
again; every other one has its token refused. -/
inductive Attempts (line : Line σ) (r : Request) (url : Url) :
    Nat → Bool → σ → Exchanged σ → Prop
  | noToken {retries : Nat} {fresh : Bool} {s s' : σ} {reason : String}
      (asked : line.token fresh s = (.error reason, s')) :
      Attempts line r url retries fresh s ⟨.error (noToken reason), [], [fresh], s'⟩
  | noReply {retries : Nat} {fresh : Bool} {s s' s'' : σ} {token reason : String}
      (asked : line.token fresh s = (.ok token, s'))
      (sent : line.reply (dispatch r url token) s' = (.error reason, s'')) :
      Attempts line r url retries fresh s
        ⟨.error (noReply reason), [dispatch r url token], [fresh], s''⟩
  | last {retries : Nat} {fresh : Bool} {s s' s'' : σ} {token : String} {response : Response}
      (asked : line.token fresh s = (.ok token, s'))
      (sent : line.reply (dispatch r url token) s' = (.ok response, s''))
      (settled : response.status = 401 → retries = 0) :
      Attempts line r url retries fresh s
        ⟨.ok response, [dispatch r url token], [fresh], s''⟩
  | refused {retries : Nat} {fresh : Bool} {s s' s'' : σ} {token : String} {response : Response}
      {e : Exchanged σ} (asked : line.token fresh s = (.ok token, s'))
      (sent : line.reply (dispatch r url token) s' = (.ok response, s''))
      (refusal : response.status = 401) (rest : Attempts line r url retries true s'' e) :
      Attempts line r url (retries + 1) fresh s
        ⟨e.result, dispatch r url token :: e.dispatches, fresh :: e.refreshes, e.state⟩

theorem attempts_attempt (line : Line σ) (r : Request) (url : Url) (retries : Nat) (fresh : Bool)
    (s : σ) : Attempts line r url retries fresh s (attempt line r url retries fresh s) := by
  induction retries generalizing fresh s with
  | zero =>
    rw [attempt]
    split
    · next asked => exact .noToken asked
    · next asked =>
      dsimp only
      split
      · next sent => exact .noReply asked sent
      · next sent => exact .last asked sent fun _ => rfl
  | succ n ih =>
    rw [attempt]
    split
    · next asked => exact .noToken asked
    · next asked =>
      dsimp only
      split
      · next sent => exact .noReply asked sent
      · next response _ sent =>
        split
        · next refusal => exact .refused asked sent (by simpa [isRefusal] using refusal) (ih ..)
        · next refusal => exact .last asked sent fun h => by simp [isRefusal, h] at refusal

end Attempts

/-- The answers of a source of tokens and of a service, listed beforehand. -/
structure LineScript where
  tokens : List (Except String String)
  replies : List (Except String Response)

/-- What has been asked of a line: for every token, whether a fresh one was wanted; and the
dispatches. -/
structure LineLog where
  refreshes : List Bool := []
  dispatches : List Dispatch := []

namespace LineScript

def exhausted : String := "no answer left"

/-- The attempts, with their tokens and replies, are numbered from zero. -/
def tokenAt (script : LineScript) (i : Nat) : Except String String :=
  script.tokens.getD i (.error exhausted)

def replyAt (script : LineScript) (i : Nat) : Except String Response :=
  script.replies.getD i (.error exhausted)

/-- The line that gives the answers one by one and takes down what it is asked. -/
def line (script : LineScript) : Line LineLog where
  token fresh log :=
    (script.tokenAt log.refreshes.length, ⟨log.refreshes ++ [fresh], log.dispatches⟩)
  reply d log :=
    (script.replyAt log.dispatches.length, ⟨log.refreshes, log.dispatches ++ [d]⟩)
  supply log := script.replies.length - log.dispatches.length

def HasToken (script : LineScript) (i : Nat) : Prop := ∃ token, script.tokenAt i = .ok token

/-- The reply refuses the token. -/
def Refuses (script : LineScript) (i : Nat) : Prop :=
  ∃ response, script.replyAt i = .ok response ∧ response.status = 401

/-- What an attempt gets behind as many others, and what is taken down of it. -/
theorem of_sent {script : LineScript} {fresh : Bool} {log log' log'' : LineLog} {token : String}
    {d : Dispatch} {reply : Except String Response} {k : Nat} (hr : log.refreshes.length = k)
    (hd : log.dispatches.length = k) (asked : script.line.token fresh log = (.ok token, log'))
    (sent : script.line.reply d log' = (reply, log'')) :
    script.tokenAt k = .ok token ∧ script.replyAt k = reply ∧
      log'' = ⟨log.refreshes ++ [fresh], log.dispatches ++ [d]⟩ := by
  obtain ⟨ht, rfl⟩ := Prod.mk.inj asked
  obtain ⟨hreply, rfl⟩ := Prod.mk.inj sent
  rw [hr] at ht
  rw [hd] at hreply
  exact ⟨ht, hreply, rfl⟩

end LineScript

/-- The first token is any token and the others are fresh ones, and each is sent with the same
request. -/
structure TakenDown (script : LineScript) (r : Request) (url : Url) (log : LineLog) : Prop where
  asked : ∀ i fresh, log.refreshes[i]? = some fresh → fresh = decide (0 < i)
  sent : ∀ i d, log.dispatches[i]? = some d →
    ∃ token, script.tokenAt i = .ok token ∧ d = dispatch r url token

/-- How the last attempt ends an exchange, given how many dispatches there have been. -/
inductive Stops (script : LineScript) (retries last : Nat) :
    Nat → Except Failure Response → Prop
  | noToken {reason : String} (token : script.tokenAt last = .error reason) :
      Stops script retries last last (.error (noToken reason))
  | noReply {reason : String} (token : script.HasToken last)
      (reply : script.replyAt last = .error reason) :
      Stops script retries last (last + 1) (.error (noReply reason))
  | settled {response : Response} (token : script.HasToken last)
      (reply : script.replyAt last = .ok response)
      (settled : response.status = 401 → last = retries) :
      Stops script retries last (last + 1) (.ok response)

/-- An exchange is a row of attempts that were refused, and one more. -/
structure Course (script : LineScript) (r : Request) (url : Url) (retries last : Nat)
    (result : Except Failure Response) (log : LineLog) : Prop where
  bounded : last ≤ retries
  refused : ∀ i < last, script.HasToken i ∧ script.Refuses i
  takenDown : TakenDown script r url log
  asked : log.refreshes.length = last + 1
  stops : Stops script retries last log.dispatches.length result

section Scripts

variable {script : LineScript} {r : Request} {url : Url} {retries : Nat} {fresh : Bool}
  {log : LineLog} {e : Exchanged LineLog}

/-- An exchange tells what the line was asked. -/
theorem Attempts.state_eq (h : Attempts script.line r url retries fresh log e) :
    e.state = ⟨log.refreshes ++ e.refreshes, log.dispatches ++ e.dispatches⟩ := by
  induction h with
  | noToken asked =>
    obtain ⟨-, rfl⟩ := Prod.mk.inj asked
    simp
  | noReply asked sent | last asked sent =>
    obtain ⟨-, rfl⟩ := Prod.mk.inj asked
    obtain ⟨-, rfl⟩ := Prod.mk.inj sent
    rfl
  | refused asked sent _ _ ih =>
    obtain ⟨-, rfl⟩ := Prod.mk.inj asked
    obtain ⟨-, rfl⟩ := Prod.mk.inj sent
    simp [ih]

section Attempt

variable {k : Nat} (taken : TakenDown script r url log) (hr : log.refreshes.length = k)
  (hd : log.dispatches.length = k)

include taken hr in
theorem TakenDown.ask :
    TakenDown script r url ⟨log.refreshes ++ [decide (0 < k)], log.dispatches⟩ where
  asked := forall_getElem?_snoc taken.asked (by rw [hr])
  sent := taken.sent

include taken hr hd in
theorem TakenDown.send {token : String} (ht : script.tokenAt k = .ok token) :
    TakenDown script r url
      ⟨log.refreshes ++ [decide (0 < k)], log.dispatches ++ [dispatch r url token]⟩ where
  asked := (taken.ask hr).asked
  sent := forall_getElem?_snoc taken.sent ⟨token, by rw [hd, ht], rfl⟩

end Attempt

/-- From the attempt of a number on, behind others that were all refused. -/
theorem Attempts.exists_course (h : Attempts script.line r url retries fresh log e) {k : Nat}
    (taken : TakenDown script r url log) (hr : log.refreshes.length = k)
    (hd : log.dispatches.length = k) (hf : fresh = decide (0 < k))
    (refused : ∀ i < k, script.HasToken i ∧ script.Refuses i) :
    ∃ last, Course script r url (k + retries) last e.result e.state := by
  induction h generalizing k with
  | noToken asked =>
    obtain ⟨ht, rfl⟩ := Prod.mk.inj asked
    rw [hr] at ht
    subst hf
    refine ⟨k, by omega, refused, taken.ask hr, by simp [hr], ?_⟩
    rw [hd]
    exact .noToken ht
  | noReply asked sent =>
    obtain ⟨ht, hreply, rfl⟩ := LineScript.of_sent hr hd asked sent
    subst hf
    refine ⟨k, by omega, refused, taken.send hr hd ht, by simp [hr], ?_⟩
    rw [List.length_append, hd]
    exact .noReply ⟨_, ht⟩ hreply
  | last asked sent settled =>
    obtain ⟨ht, hreply, rfl⟩ := LineScript.of_sent hr hd asked sent
    subst hf
    refine ⟨k, by omega, refused, taken.send hr hd ht, by simp [hr], ?_⟩
    rw [List.length_append, hd]
    exact .settled ⟨_, ht⟩ hreply fun h => by have := settled h; omega
  | refused asked sent refusal _ ih =>
    obtain ⟨ht, hreply, rfl⟩ := LineScript.of_sent hr hd asked sent
    subst hf
    have hrefused : ∀ i < k + 1, script.HasToken i ∧ script.Refuses i := by
      intro i hi
      rcases Nat.lt_succ_iff_lt_or_eq.mp hi with hlt | rfl
      · exact refused i hlt
      · exact ⟨⟨_, ht⟩, _, hreply, refusal⟩
    have := ih (taken.send hr hd ht) (by simp [hr]) (by simp [hd]) (by simp) hrefused
    rwa [Nat.add_right_comm, Nat.add_assoc] at this

section Course

variable {last : Nat} {result : Except Failure Response}

theorem Course.dispatch_iff (c : Course script r url retries last result log) {i : Nat} :
    i < log.dispatches.length ↔ i < log.refreshes.length ∧ script.HasToken i := by
  rw [c.asked, Nat.lt_succ_iff_lt_or_eq]
  have hrefused : i < last → script.HasToken i := fun hi => (c.refused i hi).1
  have hstops := c.stops
  generalize log.dispatches.length = sent at hstops
  cases hstops with
  | noToken token =>
    refine ⟨fun hi => ⟨.inl hi, hrefused hi⟩, ?_⟩
    rintro ⟨hi | rfl, t, ht⟩
    · exact hi
    · rw [token] at ht
      contradiction
  | noReply token _ | settled token =>
    rw [Nat.lt_succ_iff_lt_or_eq]
    refine ⟨?_, And.left⟩
    rintro (hi | rfl)
    · exact ⟨.inl hi, hrefused hi⟩
    · exact ⟨.inr rfl, token⟩

/-- The last attempt is tried again only if there have been enough retries. -/
theorem Course.eq_retries (c : Course script r url retries last result log)
    (hsent : last < log.dispatches.length) (hrefuses : script.Refuses last) : last = retries := by
  obtain ⟨response, hresponse, hstatus⟩ := hrefuses
  have hstops := c.stops
  generalize log.dispatches.length = sent at hstops hsent
  cases hstops with
  | noToken => omega
  | noReply _ reply =>
    rw [hresponse] at reply
    contradiction
  | settled _ reply settled =>
    rw [hresponse] at reply
    exact settled (Except.ok.inj reply ▸ hstatus)

theorem Course.token_iff (c : Course script r url retries last result log) {i : Nat} :
    i + 1 < log.refreshes.length ↔
      i < log.dispatches.length ∧ script.Refuses i ∧ i < retries := by
  rw [c.asked, Nat.add_lt_add_iff_right]
  refine ⟨fun hi => ?_, fun ⟨hsent, hrefuses, hi⟩ => ?_⟩
  · obtain ⟨htoken, hrefuses⟩ := c.refused i hi
    have := c.asked
    exact ⟨c.dispatch_iff.mpr ⟨by omega, htoken⟩, hrefuses, Nat.lt_of_lt_of_le hi c.bounded⟩
  · have hle : i < last + 1 := c.asked ▸ (c.dispatch_iff.mp hsent).1
    rcases Nat.lt_succ_iff_lt_or_eq.mp hle with hlt | rfl
    · exact hlt
    · have := c.eq_retries hsent hrefuses
      omega

/-- Before the last attempt there is no failure. -/
theorem Course.eq_last (c : Course script r url retries last result log) {i : Nat}
    (hi : i < log.refreshes.length) (hstop : ¬(script.HasToken i ∧ script.Refuses i)) :
    i = last := by
  rw [c.asked] at hi
  by_contra hne
  exact hstop (c.refused i (by omega))

theorem Course.of_noToken (c : Course script r url retries last result log) {i : Nat}
    {reason : String} (hi : i < log.refreshes.length) (token : script.tokenAt i = .error reason) :
    result = .error (noToken reason) ∧ log.dispatches.length = i := by
  have hnone : ¬script.HasToken i := by
    rintro ⟨t, ht⟩
    rw [token] at ht
    contradiction
  obtain rfl := c.eq_last hi fun h => hnone h.1
  have hstops := c.stops
  generalize log.dispatches.length = sent at hstops
  cases hstops with
  | noToken token' =>
    rw [token] at token'
    exact ⟨by rw [Except.error.inj token'], rfl⟩
  | noReply htoken | settled htoken => exact absurd htoken hnone

theorem Course.of_noReply (c : Course script r url retries last result log) {i : Nat}
    {reason : String} (hi : i < log.dispatches.length) (reply : script.replyAt i = .error reason) :
    result = .error (noReply reason) ∧ log.dispatches.length = i + 1 := by
  obtain ⟨hasked, htoken⟩ := c.dispatch_iff.mp hi
  have hnot : ¬script.Refuses i := by
    rintro ⟨response, hresponse, -⟩
    rw [reply] at hresponse
    contradiction
  obtain rfl := c.eq_last hasked fun h => hnot h.2
  have hstops := c.stops
  generalize log.dispatches.length = sent at hstops hi
  cases hstops with
  | noToken => omega
  | noReply _ reply' =>
    rw [reply] at reply'
    exact ⟨by rw [Except.error.inj reply'], rfl⟩
  | settled _ reply' =>
    rw [reply] at reply'
    contradiction

theorem Course.of_ok {response : Response}
    (c : Course script r url retries last (.ok response) log) :
    log.dispatches.length = last + 1 ∧ script.replyAt last = .ok response ∧
      (response.status = 401 → last = retries ∧ ∀ i ≤ retries, script.Refuses i) := by
  have hstops := c.stops
  generalize log.dispatches.length = sent at hstops
  cases hstops with
  | settled _ reply settled =>
    refine ⟨rfl, reply, fun h => ?_⟩
    obtain rfl := settled h
    refine ⟨rfl, fun i hi => ?_⟩
    rcases Nat.lt_or_eq_of_le hi with hlt | rfl
    · exact (c.refused i hlt).2
    · exact ⟨response, reply, h⟩

theorem Course.exists_of_error {f : Failure} (c : Course script r url retries last (.error f) log) :
    ∃ reason, last < log.refreshes.length ∧ script.tokenAt last = .error reason ∨
      last < log.dispatches.length ∧ script.replyAt last = .error reason := by
  have hasked := c.asked
  have hstops := c.stops
  generalize log.dispatches.length = sent at hstops ⊢
  cases hstops with
  | noToken token => exact ⟨_, .inl ⟨by omega, token⟩⟩
  | noReply _ reply => exact ⟨_, .inr ⟨by omega, reply⟩⟩

end Course

end Scripts

/-- What an exchange comes to whose URL is known: how often, with what and after which replies the
request is sent, and what the caller is told. -/
structure Retried (script : LineScript) (retries : Nat) (r : Request) (url : Url)
    (e : Exchanged LineLog) : Prop where
  /-- What the exchange reports is what the line was asked. -/
  reported : e.state = ⟨e.refreshes, e.dispatches⟩
  bounded : e.dispatches.length ≤ retries + 1
  first : 0 < e.dispatches.length ↔ script.HasToken 0
  next : ∀ i, i + 1 < e.dispatches.length ↔
    i < e.dispatches.length ∧ script.Refuses i ∧ i < retries ∧ script.HasToken (i + 1)
  refreshed : ∃ later, e.refreshes = false :: List.replicate later true
  sent : ∃ headers, ∀ i d, e.dispatches[i]? = some d → ∃ token, script.tokenAt i = .ok token ∧
    d = ⟨r.method, url, ("authorization", "Bearer " ++ token) :: headers, r.body⟩
  returned : ∀ response, e.result = .ok response → ∃ last, e.dispatches.length = last + 1 ∧
    script.replyAt last = .ok response ∧
    (response.status = 401 → last = retries ∧ ∀ i ≤ retries, script.Refuses i)
  noToken : ∀ i reason, i < e.refreshes.length → script.tokenAt i = .error reason →
    e.result = .error (.transport 0 ("credential unavailable: " ++ reason)) ∧
      e.dispatches.length = i
  noReply : ∀ i reason, i < e.dispatches.length → script.replyAt i = .error reason →
    e.result = .error (.transport 0 reason) ∧ e.dispatches.length = i + 1
  /-- There are no other failures. -/
  failed : ∀ f, e.result = .error f → ∃ i reason,
    i < e.refreshes.length ∧ script.tokenAt i = .error reason ∨
      i < e.dispatches.length ∧ script.replyAt i = .error reason

theorem TakenDown.refreshes_eq {script : LineScript} {r : Request} {url : Url} {log : LineLog}
    {later : Nat} (taken : TakenDown script r url log) (hl : log.refreshes.length = later + 1) :
    log.refreshes = false :: List.replicate later true := by
  apply List.ext_getElem (by simp [hl])
  intro i hi _
  rw [taken.asked i _ (List.getElem?_eq_getElem hi)]
  cases i <;> simp

theorem Course.retried {script : LineScript} {r : Request} {url : Url} {retries last : Nat}
    {e : Exchanged LineLog} (c : Course script r url retries last e.result e.state)
    (reported : e.state = ⟨e.refreshes, e.dispatches⟩) : Retried script retries r url e := by
  rw [reported] at c
  have hasked : e.refreshes.length = last + 1 := c.asked
  exact {
    reported
    bounded := by
      by_contra hlt
      have : e.refreshes.length < e.refreshes.length :=
        (c.dispatch_iff.mp (by have := c.bounded; simp only; omega)).1
      omega
    first := c.dispatch_iff.trans (and_iff_right (by simp only; omega))
    next := fun i => by rw [c.dispatch_iff, c.token_iff, and_assoc, and_assoc]
    refreshed := ⟨last, c.takenDown.refreshes_eq c.asked⟩
    sent := ⟨_, fun i d hd => c.takenDown.sent i d hd⟩
    returned := fun response hresponse => ⟨last, Course.of_ok (hresponse ▸ c)⟩
    noToken := fun i reason hi ht => c.of_noToken hi ht
    noReply := fun i reason hi hr => c.of_noReply hi hr
    failed := fun f hf => by
      obtain ⟨reason, hstop⟩ := Course.exists_of_error (hf ▸ c)
      exact ⟨last, reason, hstop⟩ }

/-- A request whose URL is known is sent again after each refusal of its token, up to the bound and
as long as there are tokens; the first one may be an old one and the others are not. The caller gets
the last reply, or a failure without a status if a token or a reply is missing. -/
theorem exchange_retried (root : Url) (retries : Nat) (r : Request) (script : LineScript)
    {url : Url} (h : resolve? root r = some url) :
    Retried script retries r url (exchange script.line root retries r {}) := by
  have hattempts := attempts_attempt script.line r url retries false {}
  have hnothing : TakenDown script r url {} := ⟨by simp, by simp⟩
  obtain ⟨last, hcourse⟩ := hattempts.exists_course (k := 0) hnothing rfl rfl rfl (by simp)
  rw [Nat.zero_add] at hcourse
  simp only [exchange, h]
  exact hcourse.retried (by simpa using hattempts.state_eq)

/-- Two tokens are refused, and the third one is not given. -/
theorem exchange_retried_revoked :
    let script : LineScript :=
      ⟨[.ok "a", .ok "b", .error "revoked"], [.ok ⟨401, [], []⟩, .ok ⟨401, [], []⟩]⟩
    let r : Request := .get "Customers" []
    let url : Url :=
      { loopback with location := .segments ["data".toList, "Customers".toList] }
    resolve? loopback r = some url ∧
      Retried script 3 r url (exchange script.line loopback 3 r {}) := by
  intro script r url
  have hurl : resolve? loopback r = some url := by decide +kernel
  exact ⟨hurl, exchange_retried loopback 3 r script hurl⟩

end RecordQuery.Service
