import RecordQuery.Http.Channel
import RecordQuery.Service.Address

/-!
# Exchanges

Sending a request over a line: a token is obtained, the request is dispatched with it, and a
reply that refuses the token leads to another attempt with a fresh one, as often as the settings
allow.
-/
namespace RecordQuery.Service

structure Dispatch where
  method : Method
  url : Url
  headers : Pairs
  body : Option String
  deriving DecidableEq

/-- What exchanges need from outside: tokens, given whether a fresh one is asked for, and replies;
or the reason why there is none. -/
structure Line (σ : Type) where
  token : Bool → σ → Except String String × σ
  reply : Dispatch → σ → Except String Response × σ
  /-- A bound on the requests that can still be answered with success. -/
  supply : σ → Nat

/-- Headers that go with every request. The headers of the request are added to them; only an
`Accept` header of its own replaces the usual one. -/
def commonHeaders (r : Request) (token : String) : Pairs :=
  [("authorization", "Bearer " ++ token), ("odata-version", "4.0")] ++
    if r.headers.any (sameHeader ·.1 "accept") then [] else [("accept", "application/json")]

def dispatch (r : Request) (url : Url) (token : String) : Dispatch :=
  ⟨r.method, url, commonHeaders r token ++ r.headers, r.body⟩

/-- The outcome of an exchange: the reply or the failure it ended with, what went over the line,
for every token whether a fresh one was asked for, and the state it left. -/
structure Exchanged (σ : Type) where
  result : Except Failure Response
  dispatches : List Dispatch
  refreshes : List Bool
  state : σ

def noToken (reason : String) : Failure := .transport 0 ("credential unavailable: " ++ reason)

def noReply (reason : String) : Failure := .transport 0 reason

def isRefusal (r : Response) : Bool := r.status = 401

def attempt {σ : Type} (line : Line σ) (r : Request) (url : Url) :
    Nat → Bool → σ → Exchanged σ
  | retries, fresh, s =>
    match line.token fresh s with
    | (.error reason, s) => ⟨.error (noToken reason), [], [fresh], s⟩
    | (.ok token, s) =>
      let d := dispatch r url token
      match line.reply d s with
      | (.error reason, s) => ⟨.error (noReply reason), [d], [fresh], s⟩
      | (.ok response, s) =>
        match retries with
        | 0 => ⟨.ok response, [d], [fresh], s⟩
        | n + 1 =>
          if isRefusal response then
            let rest := attempt line r url n true s
            ⟨rest.result, d :: rest.dispatches, fresh :: rest.refreshes, rest.state⟩
          else ⟨.ok response, [d], [fresh], s⟩

def exchange {σ : Type} (line : Line σ) (root : Url) (retries : Nat) (r : Request) (s : σ) :
    Exchanged σ :=
  match resolve? root r with
  | none => ⟨.error (unresolved r), [], [], s⟩
  | some url => attempt line r url retries false s

structure Logged (σ : Type) where
  state : σ
  dispatches : List Dispatch := []

def channel {σ : Type} (line : Line σ) (root : Url) (retries : Nat) : Channel (Logged σ) where
  send r s :=
    let e := exchange line root retries r s.state
    (⟨e.result, false⟩, ⟨e.state, s.dispatches ++ e.dispatches⟩)
  supply s := line.supply s.state

end RecordQuery.Service
