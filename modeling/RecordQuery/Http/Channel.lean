import RecordQuery.Http.Message

/-!
# Channels

What stands between a client and a service: a state that takes a request and delivers a reply. A
script is the channel whose replies are listed beforehand.
-/
namespace RecordQuery

/-- A reply on its way to the client, and whether the run is cancelled while it is. -/
structure Delivery where
  reply : Except Failure Response
  cancels : Bool := false

structure Channel (σ : Type) where
  send : Request → σ → Delivery × σ
  /-- A bound on the requests that can still be answered with success. -/
  supply : σ → Nat

abbrev Script := List Delivery

namespace Script

def exhausted : Failure := .transport 0 "no scripted response left"

def send (_ : Request) : Script → Delivery × Script
  | [] => (⟨.error exhausted, false⟩, [])
  | d :: rest => (d, rest)

def channel : Channel Script := ⟨send, List.length⟩

@[simp] theorem send_cons (r : Request) (d : Delivery) (rest : Script) :
    send r (d :: rest) = (d, rest) := rfl

end Script

/-- The outcome of work on a channel: its result, the requests it made, in order, and the state it
left. -/
structure Trace (σ α : Type) where
  result : α
  requests : List Request
  state : σ

namespace Trace

variable {σ α β : Type}

def map (f : α → β) (t : Trace σ α) : Trace σ β := ⟨f t.result, t.requests, t.state⟩

end Trace

end RecordQuery
