import RecordQuery.Service.Settings

/-!
# Credentials

Where bearer tokens come from: a token that never changes, or an environment variable whose value
is kept once it was loaded. A forced refresh loads the variable again; a load that fails leaves
the kept token alone.
-/
namespace RecordQuery

inductive Credential where
  | fixed (token : String)
  | environment (name : String)
  deriving DecidableEq

namespace Credential

/-- The token of the settings, or else the usual variable. -/
def ofSettings (s : Settings) : Credential :=
  match s.token with
  | some token => .fixed token
  | none => .environment Settings.tokenVariable

structure Missing where
  name : String
  deriving DecidableEq

def Missing.message (m : Missing) : String := (SettingsFailure.unset m.name).message

/-- The message with what lies behind it. -/
def Missing.detail (m : Missing) : String :=
  m.message ++ ": environment variable not found: environment variable not found"

/-- Loads a variable; gives the token and what is kept afterwards. -/
def load (name : String) (env : Environment) (kept : Option String) :
    Except Missing String × Option String :=
  match env name with
  | some token => (.ok token, some token)
  | none => (.error ⟨name⟩, kept)

/-- A token, given the variables as they are now and the token that is kept. -/
def obtain? (c : Credential) (forced : Bool) (env : Environment)
    (kept : Option String) : Except Missing String × Option String :=
  match c with
  | .fixed token => (.ok token, kept)
  | .environment name =>
    match forced, kept with
    | false, some token => (.ok token, kept)
    | _, _ => load name env kept

@[simp] theorem obtain?_fixed (token : String) (forced : Bool)
    (env : Environment) (kept : Option String) :
    (fixed token).obtain? forced env kept = (.ok token, kept) := rfl

@[simp] theorem obtain?_kept (name token : String) (env : Environment) :
    (environment name).obtain? false env (some token) = (.ok token, some token) := rfl

theorem obtain?_forced (name : String) (env : Environment)
    (kept : Option String) :
    (environment name).obtain? true env kept = load name env kept := rfl

end Credential

end RecordQuery
