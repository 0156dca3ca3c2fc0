import RecordQuery.CommandLine.Arguments
import RecordQuery.Service.Credential
import RecordQuery.Service.Exchange
import RecordQuery.Service.Session
import RecordQuery.Service.SettingsFile

/-!
# Running commands

What a command prints, given the files and variables around it and a line to the service.
-/
namespace RecordQuery

inductive DocumentFault where
  /-- An object without an array of records. -/
  | noRecords
  /-- Neither an array nor an object. -/
  | noCollection
  deriving DecidableEq

/-- The records of a document: the document itself, or the `value` of a page. -/
def Json.records : Json → Except DocumentFault (List Json)
  | .array items => .ok items
  | .object members =>
    match members.lookup "value" with
    | some (.array items) => .ok items
    | _ => .error .noRecords
  | _ => .error .noCollection

namespace CommandLine

/-- What stands around a command: the contents of the files that can be read, and the variables
that are set. -/
structure Surroundings where
  file : String → Option String
  env : Environment

inductive Mishap where
  | unreadable (path : String)
  | noJson (path : String)
  | noPredicate (path : String)
  | document (path : String) (fault : DocumentFault)
  | settings (failure : SettingsFailure)
  | settingsFile (failure : SettingsFileFailure)
  | root (settings : Settings)
  | service (fault : Service.Fault)

namespace Mishap

def documentMessage (path : String) : DocumentFault → String
  | .noRecords => Text.Shown.quote path ++ " has no `value` array"
  | .noCollection => Text.Shown.quote path ++ " is neither an array nor a page"

/-- What the user is told first. -/
def message : Mishap → String
  | .unreadable path => "Failed to read " ++ Text.Shown.quote path
  | .noJson path => "Failed to parse JSON in " ++ Text.Shown.quote path
  | .noPredicate path => "Invalid predicate in " ++ Text.Shown.quote path
  | .document path e => documentMessage path e
  | .settings e => e.message
  | .settingsFile e => e.message
  | .root s => Service.invalidRoot s
  | .service e => e.summary

end Mishap

def style (labels : Bool) : BooleanStyle := if labels then .noYes else .native

def failing {α : Type} (r : Except Failure α) : Except Mishap α :=
  r.mapError fun e => .service ⟨none, e⟩

def readJson (w : Surroundings) (path : String) : Except Mishap Json :=
  match w.file path with
  | none => .error (.unreadable path)
  | some text =>
    match Json.parse? text with
    | some j => .ok j
    | none => .error (.noJson path)

def readPredicate (w : Surroundings) (path : String) : Except Mishap Predicate := do
  match Predicate.ofJson? (← readJson w path) with
  | some p => return p
  | none => .error (.noPredicate path)

def readRecords (w : Surroundings) (path : String) : Except Mishap (List Json) := do
  (← readJson w path).records.mapError (.document path)

def compile (w : Surroundings) (predicate : String) (labels : Bool) : Except Mishap String := do
  let p ← readPredicate w predicate
  failing (p.clause (style labels))

def eval (w : Surroundings) (predicate records : String) (labels : Bool) :
    Except Mishap (List Json) := do
  let p ← readPredicate w predicate
  let rs ← readRecords w records
  failing (p.select (style labels) rs)

def readSettings (w : Surroundings) (config : Option String) : Except Mishap Settings :=
  match config with
  | some path => (Settings.ofFile path (w.file path)).mapError .settingsFile
  | none => (Settings.ofEnvironment w.env).mapError .settings

def readOptional (w : Surroundings) (path : Option String) : Except Mishap (Option Predicate) :=
  match path with
  | some path => (readPredicate w path).map some
  | none => .ok none

def query (w : Surroundings) (session : Service.Session) (o : FetchOptions) :
    Except Mishap Query := do
  let q := (session.query o.entity).select o.select
  let q ← match ← readOptional w o.filter with
    | some p => failing (q.filter p)
    | none => .ok q
  let q := match ← readOptional w o.localFilter with
    | some p => q.filterLocal p
    | none => q
  let q := match o.limit with
    | some n => q.limitTo n
    | none => q
  return if o.count then q.count else q

/-- A line to a service, given where its tokens come from. -/
structure Network (σ : Type) where
  line : Credential → Service.Line σ
  start : σ

def fetch {σ : Type} (w : Surroundings) (network : Network σ) (o : FetchOptions) :
    Except Mishap (List Json) := do
  let settings ← readSettings w o.config
  let settings := { settings with crossCompany := settings.crossCompany || o.crossCompany }
  let root ← match Service.root? settings with
    | some root => .ok root
    | none => .error (.root settings)
  let session := Service.Session.ofSettings settings
  let q ← query w session o
  let channel := Service.channel (network.line (.ofSettings settings)) root settings.retries
  let t := Service.Session.fetch channel q false ⟨network.start, []⟩
  (t.result.map (·.records)).mapError .service

/-- A network without any service. Tokens are there all the same. -/
def unreachable (env : Environment) : Network (Option String) where
  line credential :=
    { token := fun fresh kept =>
        let (token, kept) := credential.obtain? fresh env kept
        (token.mapError Credential.Missing.detail, kept)
      reply := fun _ kept => (.error "network unreachable", kept)
      supply := fun _ => 0 }
  start := none

/-- What the program leaves: its exit code and what it prints. -/
structure Outcome where
  code : Nat
  output : String := ""
  error : String := ""
  deriving DecidableEq

def printed (text : String) : Outcome := { code := 0, output := text ++ "\n" }

def printedJson (records : List Json) : Outcome := printed (Json.array records).pretty

def failed (m : Mishap) : Outcome := { code := 1, error := "Error: " ++ m.message ++ "\n" }

def outcome (r : Except Mishap Outcome) : Outcome :=
  match r with
  | .ok o => o
  | .error m => failed m

def run {σ : Type} (w : Surroundings) (network : Network σ) : Command → Outcome
  | .compile predicate labels => outcome ((compile w predicate labels).map printed)
  | .eval predicate records labels =>
    outcome ((eval w predicate records labels).map printedJson)
  | .fetch o => outcome ((fetch w network o).map printedJson)

def usage : String :=
  "Usage: record-query compile [--sentinel] PREDICATE\n" ++
  "       record-query eval [--sentinel] PREDICATE RECORDS\n" ++
  "       record-query fetch [--filter FILE] [--local-filter FILE] [--select FIELDS]\n" ++
  "                          [--limit N] [--count] [--cross-company] [--config FILE] ENTITY\n"

/-- Arguments that make no command are answered with a description of those that do. -/
def stopped : Stop → Outcome
  | .help => { code := 0, output := usage }
  | .misuse => { code := 2, error := usage }

def runArguments {σ : Type} (w : Surroundings) (network : Network σ) (arguments : List String) :
    Outcome :=
  match Command.parse (w.env Command.configVariable) arguments with
  | .ok command => run w network command
  | .error stop => stopped stop

end CommandLine

end RecordQuery
