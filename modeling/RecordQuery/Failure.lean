import RecordQuery.Predicate.Basic

/-!
# Failures of queries
-/
namespace RecordQuery

inductive Failure where
  /-- A predicate has no form as a filter clause. -/
  | uncompilable (node : NodeKind)
  /-- A predicate has no truth value on some record. -/
  | unevaluable (node : NodeKind)
  /-- The service refused a request, or, with status zero, could not be asked. -/
  | transport (status : Nat) (body : String)
  /-- The body of a response is not what was asked for. -/
  | undecodable
  | keyless (entity : String)
  | cancelled
  deriving DecidableEq, Repr

def Failure.message : Failure → String
  | .uncompilable node => "cannot compile " ++ node.name ++ " node into a filter clause"
  | .unevaluable node => "cannot evaluate " ++ node.name ++ " node against a record"
  | .transport status body =>
    "transport failure (status " ++ status.repr ++ "): " ++ body
  | .undecodable => "malformed page body"
  | .keyless entity => "entity '" ++ entity ++ "' has no identity key"
  | .cancelled => "query cancelled"

end RecordQuery
