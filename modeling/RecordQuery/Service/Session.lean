import RecordQuery.Paging.Run
import RecordQuery.Json.Reader
import RecordQuery.Service.Settings

/-!
# Sessions

A session with one service: queries that start out with the settings of the service, runs of such
queries, and requests for single records.
-/
namespace RecordQuery.Service

structure Session where
  style : BooleanStyle
  crossCompany : Bool
  pageSize : Option Nat

/-- A failure, and what was being done when it arose. -/
structure Fault where
  context : Option String := none
  failure : Failure

namespace Fault

/-- What was being done, if that is known, and otherwise the failure. -/
def summary (f : Fault) : String := f.context.getD f.failure.message

def message (f : Fault) : String :=
  match f.context with
  | some c => c ++ ": " ++ f.failure.message
  | none => f.failure.message

end Fault

namespace Session

def ofSettings (s : Settings) : Session := ⟨s.style, s.crossCompany, s.pageSize⟩

def query (session : Session) (entity : String) (aliases : Aliases := .empty) : Query :=
  { entity, aliases, style := session.style, crossCompany := session.crossCompany,
    pageSize := session.pageSize }

/-- A query is run with records read in its own style of booleans. -/
def plan (q : Query) : Paging.Plan := ⟨q, q.style⟩

def fetchContext (q : Query) : String := "Query against " ++ q.entity ++ " failed"

def fetch {σ : Type} (channel : Channel σ) (q : Query) (cancelled : Bool) (s : σ) :
    Trace σ (Except Fault Paging.Collected) :=
  (Paging.run channel (plan q) cancelled s).map fun outcome =>
    outcome.result.mapError fun e => ⟨some (fetchContext q), e⟩

def requestContext (r : Request) : String := "Request to " ++ r.target ++ " failed"

/-- Sends one request and looks at the reply; a reply of any status is one. -/
def submit {σ α : Type} (channel : Channel σ) (r : Request)
    (read : Response → Except Failure α) (s : σ) : Trace σ (Except Fault α) :=
  let (d, s) := channel.send r s
  let result := match d.reply with
    | .error e => .error ⟨some (requestContext r), e⟩
    | .ok response => (read response).mapError (⟨none, ·⟩)
  ⟨result, [r], s⟩

/-- Sends a request for the record that the key of a query names; without a key nothing is
sent. -/
def submitKeyed {σ α : Type} (channel : Channel σ) (method : Method) (q : Query)
    (change : Request → Request) (read : Response → Except Failure α) (s : σ) :
    Trace σ (Except Fault α) :=
  match q.keyRequest method with
  | .error e => ⟨.error ⟨none, e⟩, [], s⟩
  | .ok r => submit channel (change r) read s

def readJson (response : Response) : Except Failure Json :=
  match Json.parseBytes? response.body with
  | some j => .ok j
  | none => .error .undecodable

def ifSuccess {α : Type} (read : Response → Except Failure α) (response : Response) :
    Except Failure α :=
  if response.isSuccess then read response else .error response.failure

def readRecord (response : Response) : Except Failure (Option Json) :=
  if response.status = 404 then .ok none
  else ifSuccess (fun r => (readJson r).map some) response

/-- A record as the service has stored it, or null if the service does not show it. -/
def readCreated : Response → Except Failure Json :=
  ifSuccess fun r => if r.body.isEmpty then .ok .null else readJson r

def get {σ : Type} (channel : Channel σ) (q : Query) (s : σ) :
    Trace σ (Except Fault (Option Json)) :=
  submitKeyed channel .get q id readRecord s

def update {σ : Type} (channel : Channel σ) (q : Query) (changes : Json) (s : σ) :
    Trace σ (Except Fault Unit) :=
  submitKeyed channel .patch q (·.withJson changes) (ifSuccess fun _ => .ok ()) s

def delete {σ : Type} (channel : Channel σ) (q : Query) (s : σ) :
    Trace σ (Except Fault Unit) :=
  submitKeyed channel .delete q id (ifSuccess fun _ => .ok ()) s

def createRequest (session : Session) (entity : String) (record : Json) : Request :=
  let r : Request := { method := .post, path := entity, headers := [Query.acceptHeader] }
  { r.withJson record with
    query := if session.crossCompany then [(Query.crossCompanyOption, "true")] else [] }

def create {σ : Type} (session : Session) (channel : Channel σ) (entity : String)
    (record : Json) (s : σ) : Trace σ (Except Fault Json) :=
  submit channel (session.createRequest entity record) readCreated s

end Session

end RecordQuery.Service
