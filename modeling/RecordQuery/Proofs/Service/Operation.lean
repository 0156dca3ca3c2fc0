import RecordQuery.Proofs.Query.Slot
import RecordQuery.Proofs.Text.Utf8
import RecordQuery.Service.Session

/-!
# Operations on single records

A row of operations over one channel. An operation on a record whose query has no key sends nothing
and takes no reply; every other one sends one request, takes one reply and tells what is in it. A
failure is never told as a record that is not there or as a success.
-/
namespace RecordQuery

/-- The reply that a request gets now. -/
def Script.next : Script → Except Failure Response
  | [] => .error exhausted
  | d :: _ => d.reply

namespace Service

inductive Operation where
  | get (q : Query)
  | update (q : Query) (changes : Json)
  | delete (q : Query)
  | create (entity : String) (record : Json)

/-- What an operation brings that does not fail. -/
inductive Outcome where
  | record (found : Option Json)
  | done
  | created (record : Json)

namespace Operation

/-- The query that says which record is meant. A new record has none. -/
def query? : Operation → Option Query
  | .get q | .update q _ | .delete q => some q
  | .create .. => none

def isKeyless (o : Operation) : Bool := o.query?.any (·.keys.isEmpty)

/-- How many of the operations send a request. -/
def sent (os : List Operation) : Nat := os.countP fun o => !o.isKeyless

end Operation

/-! ## Replies read -/

section Replies

variable {response : Response} {α : Type} {read : Response → Except Failure α}

end Replies

/-! ## Single operations -/

namespace Operation

/-- What is read from a reply. -/
def read : Operation → Response → Except Failure Outcome
  | .get _, response => (Session.readRecord response).map .record
  | .update .., response | .delete _, response =>
    (Session.ifSuccess (fun _ => .ok ()) response).map fun _ => .done
  | .create .., response => (Session.readCreated response).map .created

section Single

variable {session : Session} {o : Operation} {r : Request} {s : Script} {q : Query}
  {method : Method} {response : Response} {outcome : Outcome}

end Single

/-! ## Rows of operations -/

section Rows

variable {session : Session} {o : Operation} {os : List Operation} {s : Script}

end Rows

end Operation

end Service

end RecordQuery
