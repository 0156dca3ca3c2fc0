import RecordQuery.Service.Settings
import RecordQuery.Text.Shown
import RecordQuery.Yaml.Value

/-!
# Settings files

Settings as a YAML document: a mapping with the members of the JSON form, none of them twice.
Texts may be written without quotes whatever they look like.
-/
namespace RecordQuery

namespace BooleanStyle

open Yaml (Value)

/-- The names of the labels, in the order of their numbers. -/
def labelNames : List String := ["type_name", "true_label", "false_label"]

/-- Which label a key stands for: a name or a number; an unknown one stands for none of them. -/
def labelIndex? : Value → Option Nat
  | .string name => some (labelNames.idxOf name)
  | .natural n => some n
  | _ => none

/-- A style of the given mode from its labels in their order. -/
def ofLabels? (mode : String) (given : List Value) : Option BooleanStyle :=
  if mode = "native" then if given.isEmpty then some .native else none
  else if mode = "sentinel" then
    match given with
    | [.string typeName, .string trueLabel, .string falseLabel] =>
      some (.labels typeName trueLabel falseLabel)
    | _ => none
  else none

/-- A style of the given mode from its other members. Without labels they are passed over, else
each label is given once. -/
def ofMembers? (mode : String) (members : List (Value × Value)) : Option BooleanStyle :=
  if mode = "native" then some .native
  else do
    let indexed ← members.mapM fun m => (labelIndex? m.1).map fun i => (i, m.2)
    let given ← (List.range labelNames.length).mapM fun i =>
      match indexed.filter (·.1 = i) with
      | [m] => some m.2
      | _ => none
    ofLabels? mode given

/-- How deep the collections of a style may be nested: all those of a document but the two that
hold the style and its parts. -/
def maxDepth : Nat := 126

/-- A sequence of the mode and the labels, or a mapping with the mode among its members. -/
def ofYaml (n : Yaml.Node) : Yaml.Decoding BooleanStyle := do
  match ← Yaml.Decoding.follow n with
  | .sequence p (mode :: rest) =>
    let mode ← Yaml.Decoding.text mode
    let values ← rest.mapM (Yaml.Decoding.value maxDepth)
    match if p.tag.any Yaml.Tag.isLocal then none else ofLabels? mode values with
    | some style => return style
    | none => failure
  | .mapping p members =>
    let members ← members.mapM fun m => do
      match ← Yaml.Decoding.value maxDepth m.1 with
      | .string "mode" => return Sum.inl (← Yaml.Decoding.text m.2)
      | key => return Sum.inr (key, ← Yaml.Decoding.value maxDepth m.2)
    let others := members.filterMap (·.getRight?)
    match if p.tag.any Yaml.Tag.isLocal then [] else members.filterMap (·.getLeft?) with
    | [mode] =>
      match ofMembers? mode others with
      | some style => return style
      | none => failure
    | _ => failure
  | _ => failure

end BooleanStyle

namespace Settings

open Yaml (Node Decoding)

/-- The value of a member, or the default if it is not given. -/
def memberOr {α : Type} (default : α) (read : Node → Decoding α) :
    Option Node → Decoding α
  | none => return default
  | some n => read n

def ofMembers (member? : String → Option Node) : Decoding Settings := do
  let baseUrl ← match member? "baseUrl" with
    | some n => Decoding.text n
    | none => failure
  let token ← memberOr none (Decoding.optional Decoding.text) (member? "token")
  let crossCompany ← memberOr false Decoding.boolean (member? "crossCompany")
  let style ← memberOr .native BooleanStyle.ofYaml (member? "booleanFormat")
  let pageSize ← memberOr none (Decoding.optional (Decoding.naturalBelow 32)) (member? "pageSize")
  let retries ← memberOr 1 (Decoding.naturalBelow 32) (member? "maxAuthRetries")
  let timeoutSeconds ← memberOr 30 (Decoding.naturalBelow 64) (member? "requestTimeoutSecs")
  return { baseUrl, token, crossCompany, style, pageSize, retries, timeoutSeconds }

/-- The settings of a mapping whose keys are scalars; unknown members are passed over. -/
def ofNode : Node → Decoding Settings
  | .mapping _ members => do
    let names ← members.mapM fun m => Decoding.text m.1
    if partNames.any fun name => 1 < names.count name then failure
    else
      let values := members.map (·.2)
      ofMembers fun name => (names.zip values).lookup name
  | _ => failure

def ofYaml? (text : String) : Option Settings := do
  let root ← Yaml.parse? text
  let (s, _) ← (ofNode root).run (.of root)
  return s

end Settings

inductive SettingsFileFailure where
  | unreadable (path : String)
  | malformed
  deriving DecidableEq

def SettingsFileFailure.message : SettingsFileFailure → String
  | .unreadable path => "Failed to read client config: " ++ Text.Shown.quote path
  | .malformed => "Failed to parse client config"

namespace Settings

/-- The settings of a file with the given contents, if it can be read. -/
def ofFile (path : String) (contents : Option String) : Except SettingsFileFailure Settings :=
  match contents with
  | none => .error (.unreadable path)
  | some text =>
    match ofYaml? text with
    | some s => .ok s
    | none => .error .malformed

end Settings

end RecordQuery
