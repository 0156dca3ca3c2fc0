import RecordQuery.Failure
import RecordQuery.Json.Printer
import RecordQuery.Text.Utf8

/-!
# Requests and responses

A request names its target relative to the service or by a complete link; its query options are
kept apart and unencoded until the request is sent.
-/
namespace RecordQuery

inductive Method where
  | get | post | patch | delete
  deriving DecidableEq, Repr

def Method.name : Method → String
  | .get => "GET"
  | .post => "POST"
  | .patch => "PATCH"
  | .delete => "DELETE"

def Method.ofName? (name : String) : Option Method :=
  [Method.get, .post, .patch, .delete].find? (·.name = name)

abbrev Pairs := List (String × String)

structure Request where
  method : Method
  path : String
  query : Pairs := []
  headers : Pairs := []
  body : Option String := none
  deriving DecidableEq, Repr

namespace Request

def get (path : String) (headers : Pairs) : Request := { method := .get, path, headers }

def addHeader (r : Request) (name value : String) : Request :=
  { r with headers := r.headers ++ [(name, value)] }

/-- Puts a JSON value into the body and says so in a header. -/
def withJson (r : Request) (j : Json) : Request :=
  ({ r with body := some j.compact }).addHeader "Content-Type" "application/json"

/-- Path and query options as they read before encoding. -/
def target (r : Request) : String :=
  if r.query.isEmpty then r.path
  else r.path ++ "?" ++ "&".intercalate (r.query.map fun p => p.1 ++ "=" ++ p.2)

end Request

structure Response where
  status : Nat
  headers : Pairs := []
  body : List UInt8 := []
  deriving DecidableEq, Repr

/-- Header names do not depend on the case of ASCII letters. -/
def sameHeader (a b : String) : Bool := a.toLower = b.toLower

namespace Response

def isSuccess (r : Response) : Bool := 200 ≤ r.status && r.status < 300

def Succeeds (r : Response) : Prop := 200 ≤ r.status ∧ r.status < 300

theorem isSuccess_iff {r : Response} : r.isSuccess ↔ r.Succeeds := by simp [isSuccess, Succeeds]

def header? (r : Response) (name : String) : Option String :=
  (r.headers.find? fun h => sameHeader h.1 name).map (·.2)

def bodyText (r : Response) : String := String.ofList (Text.Utf8.decodeLossy r.body)

/-- A response that is no success, as the caller sees it. -/
def failure (r : Response) : Failure := .transport r.status r.bodyText

end Response

end RecordQuery
