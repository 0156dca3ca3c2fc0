import RecordQuery.Proofs.Service.Exchange
import RecordQuery.Service.Credential

/-!
# The kept token

A token from an environment variable is the one that was loaded last, over all calls for a token
and all changes of the variable in between. So the first dispatch of every exchange carries the
token that was loaded last, be it by an earlier exchange whose token was refused.
-/
namespace RecordQuery

namespace Credential

/-- A call for a token: whether a fresh one is wanted, and the variables as they are then. -/
structure Call where
  forced : Bool
  env : Environment

/-- The token that is kept behind a row of calls. -/
def keptAfter (name : String) (calls : List Call) : Option String :=
  calls.foldl (fun kept c => ((environment name).obtain? c.forced c.env kept).2) none

/-- What a variable holds. -/
def read (name : String) (env : Environment) : Except Missing String :=
  match env name with
  | some token => .ok token
  | none => .error ⟨name⟩

/-- A call behind others loads a token: the variable is set, and a fresh token is wanted or no call
before it has found the variable set. -/
def Loads (name : String) (before : List Call) (c : Call) (token : String) : Prop :=
  c.env name = some token ∧ (c.forced ∨ ∀ b ∈ before, b.env name = none)

/-- One of the calls loads the token, and no call behind it loads any. -/
def LastLoad (name : String) (calls : List Call) (token : String) : Prop :=
  ∃ before c after, calls = before ++ c :: after ∧ Loads name before c token ∧
    ∀ front a rest later, after = front ++ a :: rest → ¬Loads name (before ++ c :: front) a later

section Calls

variable {name token : String} {env : Environment} {calls before : List Call} {c : Call}

theorem Loads.unique {later : String} (h : Loads name before c token)
    (h' : Loads name before c later) : token = later :=
  Option.some.inj (h.1.symm.trans h'.1)

theorem load_eq (name : String) (env : Environment) (kept : Option String) :
    load name env kept = (read name env, (env name).or kept) := by
  unfold load read
  split
  · next h => rw [h, Option.some_or]
  · next h => rw [h, Option.none_or]

theorem obtain?_none (name : String) (forced : Bool) (env : Environment) :
    (environment name).obtain? forced env none = (read name env, env name) := by
  rw [← (env name).or_none, ← load_eq]
  cases forced <;> rfl

theorem keptAfter_snoc (name : String) (calls : List Call) (c : Call) :
    keptAfter name (calls ++ [c]) =
      ((environment name).obtain? c.forced c.env (keptAfter name calls)).2 := by
  rw [keptAfter, List.foldl_append]
  rfl

/-- The first call that finds the variable set loads it. -/
theorem keptAfter_eq_none_iff : keptAfter name calls = none ↔ ∀ c ∈ calls, c.env name = none := by
  -- a row of calls grows at its end
  induction calls using List.reverseRecOn with
  | nil => simp [keptAfter]
  | append_singleton calls c ih =>
    simp only [keptAfter_snoc, List.forall_mem_append, List.forall_mem_singleton, ← ih]
    cases hkept : keptAfter name calls with
    | none => simp [obtain?_none]
    | some token =>
      cases hforced : c.forced with
      | false => simp
      | true => simp [obtain?_forced, load_eq]

theorem keptAfter_of_loads (h : Loads name calls c token) :
    keptAfter name (calls ++ [c]) = some token := by
  obtain ⟨hset, hforced | hunset⟩ := h
  · rw [keptAfter_snoc, hforced, obtain?_forced, load_eq, hset, Option.some_or]
  · rw [keptAfter_snoc, keptAfter_eq_none_iff.mpr hunset, obtain?_none, hset]

theorem keptAfter_of_not_loads (h : ∀ token, ¬Loads name calls c token) :
    keptAfter name (calls ++ [c]) = keptAfter name calls := by
  rw [keptAfter_snoc]
  cases hkept : keptAfter name calls with
  | none =>
    have hunset := keptAfter_eq_none_iff.mp hkept
    rw [obtain?_none]
    exact Option.eq_none_iff_forall_ne_some.mpr fun token hset => h token ⟨hset, .inr hunset⟩
  | some token =>
    cases hforced : c.forced with
    | false => rfl
    | true =>
      have hunset : c.env name = none :=
        Option.eq_none_iff_forall_ne_some.mpr fun token hset => h token ⟨hset, .inl hforced⟩
      rw [obtain?_forced, load_eq, hunset, Option.none_or]

/-- The last call decides, if it loads a token. -/
theorem lastLoad_snoc : LastLoad name (calls ++ [c]) token ↔
    Loads name calls c token ∨
      (∀ later, ¬Loads name calls c later) ∧ LastLoad name calls token := by
  constructor
  · rintro ⟨before, b, after, hsplit, hloads, hlast⟩
    rcases List.eq_nil_or_concat' after with rfl | ⟨front, a, rfl⟩
    · obtain ⟨rfl, hc⟩ := List.append_inj' hsplit rfl
      obtain rfl := List.singleton_inj.mp hc
      exact .inl hloads
    -- the call that loads is among the earlier ones, and the last call is behind it
    · rw [← List.cons_append, ← List.append_assoc] at hsplit
      obtain ⟨rfl, ha⟩ := List.append_inj' hsplit rfl
      obtain rfl := List.singleton_inj.mp ha
      refine .inr ⟨fun later => hlast front c [] later rfl, before, b, front, rfl, hloads, ?_⟩
      rintro front' a rest later rfl
      exact hlast front' a (rest ++ [c]) later (by simp)
  · rintro (hloads | ⟨hnot, before, b, after, rfl, hloads, hlast⟩)
    · exact ⟨calls, c, [], rfl, hloads, by simp⟩
    · refine ⟨before, b, after ++ [c], by simp, hloads, fun front a rest later hsplit => ?_⟩
      rcases List.eq_nil_or_concat' rest with rfl | ⟨rest', d, rfl⟩
      · obtain ⟨rfl, hc⟩ := List.append_inj' hsplit rfl
        obtain rfl := List.singleton_inj.mp hc
        exact hnot later
      · rw [← List.cons_append, ← List.append_assoc] at hsplit
        exact hlast front a rest' later (List.append_inj' hsplit rfl).1

theorem keptAfter_eq_some_iff : keptAfter name calls = some token ↔ LastLoad name calls token := by
  induction calls using List.reverseRecOn with
  | nil => simp [keptAfter, LastLoad]
  | append_singleton calls c ih =>
    rw [lastLoad_snoc]
    by_cases hloads : ∃ later, Loads name calls c later
    · obtain ⟨later, hlater⟩ := hloads
      rw [keptAfter_of_loads hlater, Option.some_inj]
      constructor
      · rintro rfl
        exact .inl hlater
      · rintro (h | ⟨hnot, -⟩)
        · exact hlater.unique h
        · exact absurd hlater (hnot later)
    · rw [not_exists] at hloads
      rw [keptAfter_of_not_loads hloads, ih]
      simp [hloads]

theorem keptAfter_eq_none_iff_lastLoad :
    keptAfter name calls = none ↔ ∀ token, ¬LastLoad name calls token := by
  simp only [Option.eq_none_iff_forall_ne_some, ne_eq, keptAfter_eq_some_iff]

/-- How calls are answered behind others. -/
structure Answers (name : String) (before : List Call) : Prop where
  /-- A fresh token is read from the variable. -/
  fresh : ∀ env, ((environment name).obtain? true env (keptAfter name before)).1 = read name env
  /-- Any other one is the token of the last load, whatever the variables are. -/
  kept : ∀ token, LastLoad name before token → ∀ env,
    (environment name).obtain? false env (keptAfter name before) = (.ok token, some token)
  /-- Before the first load every token is read from the variable. -/
  first : (∀ token, ¬LastLoad name before token) → ∀ env,
    ((environment name).obtain? false env (keptAfter name before)).1 = read name env
  /-- A call that fails leaves what is kept, so the last load still counts. -/
  failed : ∀ c missing,
    ((environment name).obtain? c.forced c.env (keptAfter name before)).1 = .error missing →
    keptAfter name (before ++ [c]) = keptAfter name before ∧
      ∀ token, LastLoad name (before ++ [c]) token ↔ LastLoad name before token

theorem keptAfter_of_error {missing : Missing}
    (h : ((environment name).obtain? c.forced c.env (keptAfter name before)).1 = .error missing) :
    keptAfter name (before ++ [c]) = keptAfter name before := by
  have hunset (hread : read name c.env = .error missing) : c.env name = none := by
    unfold read at hread
    split at hread
    · contradiction
    · assumption
  rw [keptAfter_snoc]
  cases hkept : keptAfter name before with
  | none =>
    rw [hkept, obtain?_none] at h
    rw [obtain?_none, hunset h]
  | some token =>
    cases hforced : c.forced with
    | false => rfl
    | true =>
      rw [hforced, obtain?_forced, load_eq] at h
      rw [obtain?_forced, load_eq, hunset h, Option.none_or]

theorem answers (name : String) (before : List Call) : Answers name before where
  fresh env := by rw [obtain?_forced, load_eq]
  kept token h env := by rw [keptAfter_eq_some_iff.mpr h, obtain?_kept]
  first h env := by rw [keptAfter_eq_none_iff_lastLoad.mpr h, obtain?_none]
  failed c missing h := by
    have hkept := keptAfter_of_error h
    exact ⟨hkept, fun token => by rw [← keptAfter_eq_some_iff, hkept, keptAfter_eq_some_iff]⟩

/-- A call that wants no fresh token has its answer kept, be it an old one or not. -/
theorem obtain?_unforced_iff {kept : Option String} :
    ((environment name).obtain? false env kept).1 = .ok token ↔
      ((environment name).obtain? false env kept).2 = some token := by
  cases kept with
  | some token => simp
  | none =>
    rw [obtain?_none]
    unfold read
    split <;> simp_all

end Calls

end Credential

namespace Service

open Credential (Call LastLoad keptAfter keptAfter_snoc)

/-! ## Lines and what they keep -/

section Invariants

variable {σ : Type} {line : Line σ} {r : Request} {url : Url} {P : σ → Prop}
  (htoken : ∀ fresh s, P s → P (line.token fresh s).2) (hreply : ∀ d s, P s → P (line.reply d s).2)

include htoken hreply in
/-- What single answers of a line keep, attempts keep. -/
theorem Attempts.invariant {retries : ℕ} {fresh : Bool} {s : σ} {e : Exchanged σ}
    (h : Attempts line r url retries fresh s e) (hs : P s) : P e.state := by
  have hasked {fresh : Bool} {s s' : σ} {answer : Except String String} (hs : P s)
      (asked : line.token fresh s = (answer, s')) : P s' := by
    have hnext := htoken fresh s hs
    rwa [asked] at hnext
  have hsent {d : Dispatch} {s s' : σ} {answer : Except String Response} (hs : P s)
      (sent : line.reply d s = (answer, s')) : P s' := by
    have hnext := hreply d s hs
    rwa [sent] at hnext
  induction h with
  | noToken asked => exact hasked hs asked
  | noReply asked sent => exact hsent (hasked hs asked) sent
  | last asked sent _ => exact hsent (hasked hs asked) sent
  | refused asked sent _ _ ih => exact ih (hsent (hasked hs asked) sent)

/-- A request on its way to a service. -/
structure Sending where
  root : Url
  retries : ℕ
  request : Request

def Sending.exchange (line : Line σ) (sending : Sending) (s : σ) : Exchanged σ :=
  Service.exchange line sending.root sending.retries sending.request s

/-- The state behind a row of exchanges. -/
def stateAfter (line : Line σ) (sendings : List Sending) (s : σ) : σ :=
  sendings.foldl (fun s sending => (sending.exchange line s).state) s

include htoken hreply in
theorem Sending.invariant (sending : Sending) {s : σ} (hs : P s) :
    P (sending.exchange line s).state := by
  unfold exchange Service.exchange
  split
  · exact hs
  · exact (attempts_attempt ..).invariant htoken hreply hs

include htoken hreply in
theorem stateAfter_invariant (sendings : List Sending) {s : σ} (hs : P s) :
    P (stateAfter line sendings s) := by
  induction sendings generalizing s with
  | nil => exact hs
  | cons sending rest ih => exact ih (sending.invariant htoken hreply hs)

end Invariants

/-- The first dispatch of an exchange has the first token. -/
theorem Sending.head?_dispatches {σ : Type} {line : Line σ} {s : σ} {sending : Sending}
    {d : Dispatch} : (sending.exchange line s).dispatches.head? = some d ↔
      ∃ url token, resolve? sending.root sending.request = some url ∧
        (line.token false s).1 = .ok token ∧ d = dispatch sending.request url token := by
  unfold exchange Service.exchange
  cases hurl : resolve? sending.root sending.request with
  | none => simp
  | some url =>
    simp only [Option.some.injEq, exists_and_left, exists_eq_left']
    have h := attempts_attempt line sending.request url sending.retries false s
    generalize attempt line sending.request url sending.retries false s = e at h ⊢
    generalize sending.retries = retries at h
    cases h with
    | noToken asked => simp [asked]
    | noReply asked _ | last asked _ _ | refused asked _ _ _ => simp [asked, eq_comm]

/-- What goes on outside a line: the variables at every call for a token, and the replies. -/
structure Outside where
  environment : ℕ → Environment
  replies : List (Except String Response)

/-- What a line was asked, and the token it keeps. -/
structure Held extends LineLog where
  kept : Option String := none

namespace Outside

variable {o : Outside} {name token : String}

/-- The line whose tokens come from a variable. -/
def line (o : Outside) (name : String) : Line Held where
  token fresh held :=
    let (answer, kept) := (Credential.environment name).obtain? fresh
      (o.environment held.refreshes.length) held.kept
    (answer.mapError Credential.Missing.detail, ⟨⟨held.refreshes ++ [fresh], held.dispatches⟩, kept⟩)
  reply d held :=
    (o.replies.getD held.dispatches.length (.error LineScript.exhausted),
      ⟨⟨held.refreshes, held.dispatches ++ [d]⟩, held.kept⟩)
  supply held := o.replies.length - held.dispatches.length

/-- Calls for tokens, with the variables at each of them. -/
def calls (o : Outside) (refreshes : List Bool) : List Call :=
  refreshes.mapIdx fun i forced => ⟨forced, o.environment i⟩

theorem calls_snoc (o : Outside) (refreshes : List Bool) (forced : Bool) :
    o.calls (refreshes ++ [forced]) =
      o.calls refreshes ++ [⟨forced, o.environment refreshes.length⟩] :=
  List.mapIdx_concat

/-- What is kept is what the calls so far leave. -/
def Keeps (o : Outside) (name : String) (held : Held) : Prop :=
  held.kept = keptAfter name (o.calls held.refreshes)

theorem keeps_token (fresh : Bool) {held : Held} (h : o.Keeps name held) :
    o.Keeps name ((o.line name).token fresh held).2 := by
  unfold Keeps at h ⊢
  simp only [line, calls_snoc, keptAfter_snoc, ← h]

theorem keeps_stateAfter (o : Outside) (name : String) (sendings : List Sending) :
    o.Keeps name (stateAfter (o.line name) sendings {}) :=
  stateAfter_invariant (fun fresh _ => keeps_token fresh) (fun _ _ h => h) sendings rfl

theorem token_iff {held : Held} (h : o.Keeps name held) :
    ((o.line name).token false held).1 = .ok token ↔
      LastLoad name (o.calls (held.refreshes ++ [false])) token := by
  rw [← Credential.keptAfter_eq_some_iff, calls_snoc, keptAfter_snoc, ← h,
    ← Credential.obtain?_unforced_iff]
  simp only [line]
  generalize ((Credential.environment name).obtain? false _ held.kept).1 = answer
  cases answer <;> simp [Except.mapError]

end Outside

/-- The first header of a dispatch has its token. -/
def Dispatch.Carries (d : Dispatch) (token : String) : Prop :=
  d.headers.head? = some ("authorization", "Bearer " ++ token)

theorem carries_dispatch (r : Request) (url : Url) (token : String) :
    (dispatch r url token).Carries token := rfl

/-- Behind any calls for tokens, a fresh token is read from the variable, and another one is that of
the last load, if there is one. The first dispatch of an exchange behind any others carries the
token of the last load, its own first call included; without a load there is no dispatch. -/
theorem last_load_kept (name : String) :
    (∀ before, Credential.Answers name before) ∧
      ∀ (o : Outside) (front : List Sending) (sending : Sending),
        let held := stateAfter (o.line name) front {}
        ∀ d, (sending.exchange (o.line name) held).dispatches.head? = some d ↔
          ∃ url token, resolve? sending.root sending.request = some url ∧
            LastLoad name (o.calls (held.refreshes ++ [false])) token ∧
            d = dispatch sending.request url token ∧ d.Carries token := by
  refine ⟨Credential.answers name, ?_⟩
  intro o front sending held d
  have hkeeps : o.Keeps name held := o.keeps_stateAfter name front
  simp only [Sending.head?_dispatches, Outside.token_iff hkeeps]
  constructor
  · rintro ⟨url, token, hurl, hload, rfl⟩
    exact ⟨url, token, hurl, hload, rfl, carries_dispatch _ _ _⟩
  · rintro ⟨url, token, hurl, hload, rfl, -⟩
    exact ⟨url, token, hurl, hload, rfl⟩

/-- The first exchange has its token refused and loads another one, with which the second exchange
begins, although the variable is not set any more. -/
theorem last_load_kept_refused :
    let o : Outside :=
      ⟨fun i _ => ["a", "b"][i]?, [.ok ⟨401, [], []⟩, .ok ⟨200, [], []⟩, .ok ⟨200, [], []⟩]⟩
    let sending : Sending := ⟨loopback, 1, .get "Customers" []⟩
    let url : Url := { loopback with location := .segments ["data".toList, "Customers".toList] }
    let line := o.line "ODATA_TOKEN"
    (sending.exchange line (stateAfter line [sending] {})).dispatches.head? =
      some (dispatch sending.request url "b") := by
  intro o sending url line
  have hurl : resolve? sending.root sending.request = some url := by decide +kernel
  have hrefreshes : (stateAfter line [sending] {}).refreshes = [false, true] := by decide +kernel
  have hload : LastLoad "ODATA_TOKEN" (o.calls [false, true, false]) "b" :=
    Credential.keptAfter_eq_some_iff.mp rfl
  exact ((last_load_kept "ODATA_TOKEN").2 o [sending] sending _).mpr
    ⟨url, "b", hurl, hrefreshes ▸ hload, rfl, carries_dispatch _ _ _⟩

end Service

end RecordQuery
