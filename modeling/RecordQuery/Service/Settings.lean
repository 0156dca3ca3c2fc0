import RecordQuery.Predicate.Stored

/-!
# Settings

Where a service is and how it is spoken to. Settings come from environment variables or from a
JSON value; only the address of the service has no default.
-/
namespace RecordQuery

abbrev Environment := String → Option String

structure Settings where
  baseUrl : String
  /-- Without a token here, the environment is asked for one. -/
  token : Option String := none
  crossCompany : Bool := false
  style : BooleanStyle := .native
  pageSize : Option Nat := none
  /-- How often a request is sent again after its token was refused. -/
  retries : Nat := 1
  timeoutSeconds : Nat := 30
  deriving DecidableEq

inductive SettingsFailure where
  | unset (name : String)
  | invalid (name text : String)
  deriving DecidableEq

def SettingsFailure.message : SettingsFailure → String
  | .unset name => name ++ " is not set"
  | .invalid name text => "Invalid " ++ name ++ ": " ++ text

namespace Settings

/-! ## Environment variables -/

def baseUrlVariable : String := "ODATA_BASE_URL"

def tokenVariable : String := "ODATA_TOKEN"

def crossCompanyVariable : String := "ODATA_CROSS_COMPANY"

def styleVariable : String := "ODATA_BOOLEAN_FORMAT"

def pageSizeVariable : String := "ODATA_PAGE_SIZE"

def retriesVariable : String := "ODATA_MAX_AUTH_RETRIES"

def timeoutVariable : String := "ODATA_TIMEOUT_SECS"

def readBool? (text : String) : Option Bool :=
  if text = "true" then some true else if text = "false" then some false else none

/-- The names of the styles do not depend on the case of ASCII letters. -/
def readStyle? (text : String) : Option BooleanStyle :=
  let name := text.toLower
  if name = "native" then some .native
  else if name = "noyes" ∨ name = "sentinel" then some .noYes
  else none

def readNatBelow? (bits : Nat) (text : String) : Option Nat :=
  (Text.Digits.readNat? text.toList).filter (· < Nat.pow 2 bits)

/-- The value of a variable, or the default if it is not set; `shown` is how a refused text is
reported. -/
def fromVariable {α : Type} (env : Environment) (name : String) (default : α)
    (read? : String → Option α) (shown : String → String := id) : Except SettingsFailure α :=
  match env name with
  | none => .ok default
  | some text =>
    match read? text with
    | some a => .ok a
    | none => .error (.invalid name (shown text))

def ofEnvironment (env : Environment) : Except SettingsFailure Settings := do
  let baseUrl ← match env baseUrlVariable with
    | some url => .ok url
    | none => .error (.unset baseUrlVariable)
  let crossCompany ← fromVariable env crossCompanyVariable false readBool?
  let style ← fromVariable env styleVariable .native readStyle? String.toLower
  let pageSize ← fromVariable env pageSizeVariable none
    fun text => (readNatBelow? 32 text).map some
  let retries ← fromVariable env retriesVariable 1 (readNatBelow? 32)
  let timeoutSeconds ← fromVariable env timeoutVariable 30 (readNatBelow? 64)
  return { baseUrl, token := env tokenVariable, crossCompany, style, pageSize, retries,
           timeoutSeconds }

/-! ## JSON -/

/-- The members of the object form, in the order of the array form. -/
def partNames : List String :=
  ["baseUrl", "token", "crossCompany", "booleanFormat", "pageSize", "maxAuthRetries",
    "requestTimeoutSecs"]

def readOr {α : Type} (default : α) (read? : Json → Option α) : Option Json → Option α
  | none => some default
  | some j => read? j

def orNull {α : Type} (read? : Json → Option α) : Json → Option (Option α)
  | .null => some none
  | j => (read? j).map some

def ofParts? (part? : String → Option Json) : Option Settings := do
  return {
    baseUrl := ← (← part? "baseUrl").toString?
    token := ← readOr none (orNull Json.toString?) (part? "token")
    crossCompany := ← readOr false Json.toBool? (part? "crossCompany")
    style := ← readOr .native BooleanStyle.ofJson? (part? "booleanFormat")
    pageSize := ← readOr none (orNull (Json.toNatBelow? 32)) (part? "pageSize")
    retries := ← readOr 1 (Json.toNatBelow? 32) (part? "maxAuthRetries")
    timeoutSeconds := ← readOr 30 (Json.toNatBelow? 64) (part? "requestTimeoutSecs") }

def ofJson? : Json → Option Settings
  | .object members => ofParts? fun name => members.lookup name
  | .array items =>
    if items.length ≤ partNames.length then
      ofParts? fun name => (partNames.zip items).lookup name
    else none
  | _ => none

end Settings

end RecordQuery
