import RecordQuery.Clause.Printer
import RecordQuery.Http.Message

/-!
# Queries

A query is an entity set with everything that is asked of it. It is put together step by step,
and no step depends on a request being sent. The server-side predicate is kept as a predicate:
its clause is rendered when a request is made, in the style of booleans the query has then.
-/
namespace RecordQuery

/-! ## Key segments

The key of a single record as it stands in a path: names and constants in parentheses. Characters
that would end the path or split it are written as percent escapes inside the constants. -/

namespace Key

def escapeChar (c : Char) : List Char :=
  if c = '%' then "%25".toList
  else if c = '#' then "%23".toList
  else if c = '?' then "%3F".toList
  else if c = '/' then "%2F".toList
  else if c = '\\' then "%5C".toList
  else [c]

def escape (text : List Char) : List Char := text.flatMap escapeChar

def entry (style : BooleanStyle) (key : String × Literal) : List Char :=
  key.1.toList ++ '=' :: escape (key.2.text style)

def segment (style : BooleanStyle) (keys : List (String × Literal)) : List Char :=
  '(' :: (((keys.map (entry style)).intersperse [',']).flatten ++ [')'])

theorem escape_append (s t : List Char) : escape (s ++ t) = escape s ++ escape t := by
  simp [escape]

end Key

/-! ## Queries -/

structure Expansion where
  navigation : String
  selection : List String
  deriving DecidableEq, Repr

structure Query where
  entity : String
  aliases : Aliases := .empty
  style : BooleanStyle := .native
  crossCompany : Bool := false
  serverFilter : Option Predicate := none
  /-- Options by name, in the order of their first setting; the filter clause is not among them
  while there is a server-side predicate. -/
  options : Pairs := []
  expansions : List Expansion := []
  ordering : List String := []
  localFilter : Option Predicate := none
  limit : Option Nat := none
  pageSize : Option Nat := none
  keys : List (String × Literal) := []

def Expansion.text (e : Expansion) : String :=
  if e.selection.isEmpty then e.navigation
  else e.navigation ++ "($select=" ++ ",".intercalate e.selection ++ ")"

/-- Sets an option in place, or adds it behind the others. -/
def setOption (name value : String) (options : Pairs) : Pairs :=
  if options.any (·.1 = name) then options.map fun o => if o.1 = name then (name, value) else o
  else options ++ [(name, value)]

def removeOption (name : String) (options : Pairs) : Pairs := options.filter (·.1 ≠ name)

namespace Query

def filterOption : String := "$filter"

def selectOption : String := "$select"

def expandOption : String := "$expand"

def orderOption : String := "$orderby"

def skipOption : String := "$skip"

def topOption : String := "$top"

def countOption : String := "$count"

def crossCompanyOption : String := "cross-company"

def set (name value : String) (q : Query) : Query :=
  { q with options := setOption name value q.options }

/-- Replaces the server-side predicate, and an option that stood in for it. A predicate without
a clause is refused. -/
def filter (p : Predicate) (q : Query) : Except Failure Query := do
  let p := p.rename q.aliases
  let _ ← p.clause q.style
  return { q with options := removeOption filterOption q.options, serverFilter := some p }

/-- Replaces the predicate that is evaluated on the records as they arrive. -/
def filterLocal (p : Predicate) (q : Query) : Query :=
  { q with localFilter := some (p.rename q.aliases) }

/-- Without fields, no selection is asked for. -/
def select (fields : List String) (q : Query) : Query :=
  if fields.isEmpty then { q with options := removeOption selectOption q.options }
  else q.set selectOption (",".intercalate (fields.map q.aliases.resolve))

def addExpansion (e : Expansion) (es : List Expansion) : List Expansion :=
  if es.any (·.navigation = e.navigation) then
    es.map fun x => if x.navigation = e.navigation then e else x
  else es ++ [e]

/-- Adds a navigation; one that is there already gets the new selection. -/
def expand (navigation : String) (selection : List String) (q : Query) : Query :=
  let es := addExpansion ⟨q.aliases.resolve navigation, selection⟩ q.expansions
  { q with expansions := es }.set expandOption (",".intercalate (es.map Expansion.text))

def orderBy (field : String) (descending : Bool) (q : Query) : Query :=
  let name := q.aliases.resolve field
  let ordering := q.ordering ++ [if descending then name ++ " desc" else name]
  { q with ordering }.set orderOption (",".intercalate ordering)

def skip (n : Nat) (q : Query) : Query := q.set skipOption n.repr

def top (n : Nat) (q : Query) : Query := q.set topOption n.repr

def count (q : Query) : Query := q.set countOption "true"

/-- Sets any option as it is given. A filter clause given so replaces the predicate. -/
def option (name value : String) (q : Query) : Query :=
  { q with serverFilter := if name = filterOption then none else q.serverFilter }.set name value

def limitTo (n : Nat) (q : Query) : Query := { q with limit := some n }

def withPageSize (n : Nat) (q : Query) : Query := { q with pageSize := some n }

/-- Adds a part of the key; a part of the same name is replaced. -/
def key (name : String) (value : Literal) (q : Query) : Query :=
  let name := q.aliases.resolve name
  if q.keys.any (·.1 = name) then
    { q with keys := q.keys.map fun k => if k.1 = name then (name, value) else k }
  else { q with keys := q.keys ++ [(name, value)] }

def acrossCompanies (enabled : Bool) (q : Query) : Query := { q with crossCompany := enabled }

def withStyle (style : BooleanStyle) (q : Query) : Query := { q with style }

inductive Step where
  | filter (p : Predicate)
  | filterLocal (p : Predicate)
  | select (fields : List String)
  | expand (navigation : String) (selection : List String)
  | orderBy (field : String) (descending : Bool)
  | skip (n : Nat)
  | top (n : Nat)
  | count
  | option (name value : String)
  | limit (n : Nat)
  | pageSize (n : Nat)
  | key (name : String) (value : Literal)
  | crossCompany (enabled : Bool)
  | style (style : BooleanStyle)

/-- Only a server-side predicate can be refused. -/
def apply (q : Query) : Step → Except Failure Query
  | .filter p => q.filter p
  | .filterLocal p => .ok (q.filterLocal p)
  | .select fields => .ok (q.select fields)
  | .expand navigation selection => .ok (q.expand navigation selection)
  | .orderBy field descending => .ok (q.orderBy field descending)
  | .skip n => .ok (q.skip n)
  | .top n => .ok (q.top n)
  | .count => .ok q.count
  | .option name value => .ok (q.option name value)
  | .limit n => .ok (q.limitTo n)
  | .pageSize n => .ok (q.withPageSize n)
  | .key name value => .ok (q.key name value)
  | .crossCompany enabled => .ok (q.acrossCompanies enabled)
  | .style style => .ok (q.withStyle style)

/-- A refused step leaves the query as it was. -/
def applyOrKeep (q : Query) (s : Step) : Query :=
  match q.apply s with
  | .ok q => q
  | .error _ => q

def applyAll (q : Query) (steps : List Step) : Query := steps.foldl applyOrKeep q

def option? (q : Query) (name : String) : Option String := q.options.lookup name

/-- The filter clause of the server-side predicate as it would be sent now. -/
def clause (q : Query) : Except Failure (Option String) :=
  match q.serverFilter with
  | none => .ok none
  | some p => (p.clause q.style).map some

/-- The options in the order in which they are sent: the company scope, the filter clause, and
the others. -/
def pairs (q : Query) : Except Failure Pairs := do
  let scope := if q.crossCompany then [(crossCompanyOption, "true")] else []
  let filter := match ← q.clause with
    | some clause => [(filterOption, clause)]
    | none => []
  return scope ++ filter ++ q.options

def acceptHeader : String × String := ("Accept", "application/json")

def headers (q : Query) : Pairs :=
  match q.pageSize with
  | some n => [acceptHeader, ("Prefer", "odata.maxpagesize=" ++ n.repr)]
  | none => [acceptHeader]

def collectionRequest (q : Query) : Except Failure Request := do
  return { method := .get, path := q.entity, query := ← q.pairs, headers := q.headers }

def path (q : Query) : Except Failure String := q.collectionRequest.map Request.target

def keyPath (q : Query) : Except Failure String :=
  if q.keys.isEmpty then .error (.keyless q.entity)
  else .ok (q.entity ++ String.ofList (Key.segment q.style q.keys))

/-- A request for the single record the key names; of the options only the company scope goes
with it. -/
def keyRequest (method : Method) (q : Query) : Except Failure Request := do
  return { method, path := ← q.keyPath,
           query := if q.crossCompany then [(crossCompanyOption, "true")] else [],
           headers := [acceptHeader] }

end Query

end RecordQuery
