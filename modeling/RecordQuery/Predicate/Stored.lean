import RecordQuery.Json.Value
import RecordQuery.Predicate.Basic
import RecordQuery.Time.Reader

/-!
# Stored predicates

Predicates, constants and boolean styles as JSON values. Each is written as an object with a tag;
read, it may also be an array that starts with the tag and holds the parts in their order.
Members that are not asked for are ignored. Inside a predicate the tags may be written in more
ways than outermost.
-/
namespace RecordQuery

namespace Stored

/-- Whether a value is read on its own or as a part of a predicate. -/
inductive Level where
  | outermost
  | inner
  deriving DecidableEq, Repr

/-- What stands for nothing beside a name: null, and inside a predicate an empty object too. -/
def isNothing (level : Level) : Json → Bool
  | .null => true
  | .object [] => level = .inner
  | _ => false

/-- The name of one of several alternatives: a string, or an object with that name alone. -/
def choice? (level : Level) : Json → Option String
  | .string s => some s
  | .object [(name, j)] => if isNothing level j then some name else none
  | _ => none

/-- The tag of one of several alternatives: its name, and inside a predicate its number too. -/
def tag? (level : Level) (names : List String) : Json → Option String
  | .string s => some s
  | .number (.integer i) => if level = .inner ∧ 0 ≤ i then names[i.toNat]? else none
  | _ => none

/-- A tag and the parts that go with it, looked up by name. -/
structure Tagged (α : Type) where
  tag : String
  part? : String → Option α

/-- Reads the parts of an array in the order of their names; there may be fewer parts, but not
more. -/
def ofParts? {α : Type} (names : String → Option (List String)) (tag : String) (parts : List α) :
    Option (Tagged α) := do
  let names ← names tag
  if parts.length ≤ names.length then some ⟨tag, fun name => (names.zip parts).lookup name⟩
  else none

end Stored

namespace Literal

def storedKind : Literal → String
  | .string _ => "string"
  | .integer _ => "integer"
  | .real _ => "real"
  | .boolean _ => "boolean"
  | .instant _ => "datetime"
  | .null => "null"
  | .member .. => "enum"

def storedValue? : Literal → Option Json
  | .string s => some (.string s)
  | .integer i => some (.ofInt i)
  | .real x => some (if x.isFinite then .number (.real x) else .null)
  | .boolean b => some (.boolean b)
  | .instant t => some (.string (String.ofList t.storedText))
  | .null => none
  | .member typeName label =>
    some (.object [("label", .string label), ("type_name", .string typeName)])

def toJson (v : Literal) : Json :=
  match v.storedValue? with
  | some value => .object [("kind", .string v.storedKind), ("value", value)]
  | none => .object [("kind", .string v.storedKind)]

def ofKind? (kind : String) (value : Option Json) : Option Literal :=
  if kind = "null" then
    match value with
    | none | some .null => some .null
    | _ => none
  else do
    let value ← value
    if kind = "string" then value.toString?.map .string
    else if kind = "integer" then
      (value.toIntWithin? Number.minSigned Number.maxSigned).map .integer
    else if kind = "real" then value.toReal?.map .real
    else if kind = "boolean" then value.toBool?.map .boolean
    else if kind = "datetime" then
      (Time.Instant.readRelaxed? (← value.toString?).toList).map .instant
    else if kind = "enum" then
      return .member (← (← value.member? "type_name").toString?)
        (← (← value.member? "label").toString?)
    else none

def kindNames : List String :=
  ["string", "integer", "real", "boolean", "datetime", "null", "enum"]

def read? (level : Stored.Level) : Json → Option Literal
  | .object members => do
    ofKind? (← Stored.choice? level (← members.lookup "kind")) (members.lookup "value")
  | .array [kind, value] => do ofKind? (← Stored.tag? level kindNames kind) (some value)
  | _ => none

def ofJson? (j : Json) : Option Literal := read? .outermost j

end Literal

namespace BooleanStyle

def toJson : BooleanStyle → Json
  | .native => .object [("mode", .string "native")]
  | .labels typeName trueLabel falseLabel =>
    .object [("false_label", .string falseLabel), ("mode", .string "sentinel"),
      ("true_label", .string trueLabel), ("type_name", .string typeName)]

def partNames (mode : String) : Option (List String) :=
  if mode = "native" then some []
  else if mode = "sentinel" then some ["type_name", "true_label", "false_label"]
  else none

def ofTagged? (t : Stored.Tagged Json) : Option BooleanStyle :=
  let text? (name : String) : Option String := (t.part? name).bind Json.toString?
  if t.tag = "native" then some .native
  else if t.tag = "sentinel" then
    return .labels (← text? "type_name") (← text? "true_label") (← text? "false_label")
  else none

def ofJson? : Json → Option BooleanStyle
  | .object members => do
    ofTagged? ⟨← (← members.lookup "mode").toString?, fun name => members.lookup name⟩
  | .array (.string mode :: parts) => (Stored.ofParts? partNames mode parts).bind ofTagged?
  | _ => none

end BooleanStyle

def Comparison.ofToken? (token : String) : Option Comparison :=
  [Comparison.eq, .ne, .gt, .ge, .lt, .le].find? (·.token = token)

def Connective.ofToken? (token : String) : Option Connective :=
  [Connective.and, .or].find? (·.token = token)

def Test.ofName? (name : String) : Option Test :=
  [Test.contains, .startsWith, .endsWith, .any, .anyMatch, .inList].find? (·.name = name)

namespace Predicate

def pathJson (p : Path) : Json := .string p.text

mutual

def toJson : Predicate → Json
  | .literal v => .object [("type", .string "literal"), ("value", v.toJson)]
  | .field p => .object [("path", pathJson p), ("type", .string "field")]
  | .compare op a b =>
    .object [("left", toJson a), ("op", .string op.token), ("right", toJson b),
      ("type", .string "compare")]
  | .logical op a b =>
    .object [("left", toJson a), ("op", .string op.token), ("right", toJson b),
      ("type", .string "logical")]
  | .not a => .object [("operand", toJson a), ("type", .string "not")]
  | .call test target arguments =>
    .object [("args", .array (toJsonAll arguments)), ("kind", .string test.name),
      ("target", toJson target), ("type", .string "call")]

def toJsonAll : List Predicate → List Json
  | [] => []
  | p :: ps => toJson p :: toJsonAll ps

end

/-- What a JSON value can be read as: itself, a predicate, a list of predicates. -/
structure Reading where
  json : Json
  predicate? : Option Predicate
  predicates? : Option (List Predicate)

/-- The alternatives and the names of their parts. -/
def layout : List (String × List String) :=
  [("literal", ["value"]), ("field", ["path"]), ("compare", ["op", "left", "right"]),
    ("logical", ["op", "left", "right"]), ("not", ["operand"]),
    ("call", ["kind", "target", "args"])]

def typeNames : List String := layout.map (·.1)

def partNames (type : String) : Option (List String) := layout.lookup type

/-- Only the arguments of a call may be missing. -/
def ofTagged? (t : Stored.Tagged Reading) : Option Predicate :=
  let json? (name : String) : Option Json := (t.part? name).map (·.json)
  let child? (name : String) : Option Predicate := (t.part? name).bind (·.predicate?)
  if t.tag = "literal" then do
    return .literal (← Literal.read? .inner (← json? "value"))
  else if t.tag = "field" then do return .field (.ofText (← (← json? "path").toString?))
  else if t.tag = "compare" then do
    return .compare (← Comparison.ofToken? (← Stored.choice? .inner (← json? "op")))
      (← child? "left") (← child? "right")
  else if t.tag = "logical" then do
    return .logical (← Connective.ofToken? (← Stored.choice? .inner (← json? "op")))
      (← child? "left") (← child? "right")
  else if t.tag = "not" then do return .not (← child? "operand")
  else if t.tag = "call" then do
    let arguments ← match t.part? "args" with
      | none => some []
      | some r => r.predicates?
    return .call (← Test.ofName? (← Stored.choice? .inner (← json? "kind"))) (← child? "target")
      arguments
  else none

def ofItems? (items : List Reading) : Option Predicate :=
  match items with
  | [] => none
  | r :: parts => do
    (Stored.ofParts? partNames (← Stored.tag? .inner typeNames r.json) parts).bind ofTagged?

def ofMembers? (members : List (String × Reading)) : Option Predicate := do
  let tag ← Stored.tag? .inner typeNames (← members.lookup "type").json
  ofTagged? ⟨tag, fun name => members.lookup name⟩

mutual

/-- Reads a value and all its parts, each of them once. -/
def reading : Json → Reading
  | .array items =>
    let rs := readings items
    ⟨.array items, ofItems? rs, rs.mapM (·.predicate?)⟩
  | .object members => ⟨.object members, ofMembers? (memberReadings members), none⟩
  | j => ⟨j, none, none⟩

def readings : List Json → List Reading
  | [] => []
  | j :: rest => reading j :: readings rest

def memberReadings : List (String × Json) → List (String × Reading)
  | [] => []
  | (name, j) :: rest => (name, reading j) :: memberReadings rest

end

/-- The value in the place of the tag. -/
def tagJson? : Json → Option Json
  | .object members => members.lookup "type"
  | .array items => items.head?
  | _ => none

/-- Outermost, a tag is a name. -/
def ofJson? (j : Json) : Option Predicate := do
  let _ ← Stored.tag? .outermost typeNames (← tagJson? j)
  (reading j).predicate?

end Predicate

end RecordQuery
