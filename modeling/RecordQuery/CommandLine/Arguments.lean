import RecordQuery.Text.Digits

/-!
# Arguments

The arguments of a command are flags, options with a value, and positional arguments. Flags and
most options are given at most once, in any place; behind two dashes everything is positional.
-/
namespace RecordQuery.CommandLine

/-- Why no command is run: help is asked for, or the arguments make no command. -/
inductive Stop where
  | help
  | misuse
  deriving DecidableEq

/-- What may follow the name of a command. Values come with a test that they have to pass. -/
structure Grammar where
  flags : List String := []
  options : List (String × (String → Bool)) := []
  /-- The options that may be given more than once. -/
  repeatable : List String := []
  positionals : List (String → Bool) := []

/-- The arguments read so far, each kind in its order. -/
structure Gathered where
  flags : List String := []
  values : List (String × String) := []
  positionals : List String := []

namespace Gathered

def has (g : Gathered) (flag : String) : Bool := g.flags.contains flag

def value? (g : Gathered) (option : String) : Option String := g.values.lookup option

def allValues (g : Gathered) (option : String) : List String :=
  (g.values.filter (·.1 = option)).map (·.2)

end Gathered

namespace Grammar

def addPositional (grammar : Grammar) (g : Gathered) (value : String) : Except Stop Gathered :=
  match grammar.positionals[g.positionals.length]? with
  | some accepts =>
    if accepts value then .ok { g with positionals := g.positionals ++ [value] }
    else .error .misuse
  | none => .error .misuse

def addFlag (grammar : Grammar) (g : Gathered) (name : String) : Except Stop Gathered :=
  if name = "help" then .error .help
  else if grammar.flags.contains name && !g.has name then .ok { g with flags := g.flags ++ [name] }
  else .error .misuse

def addValue (grammar : Grammar) (g : Gathered) (name value : String) : Except Stop Gathered :=
  match grammar.options.lookup name with
  | some accepts =>
    if accepts value && (grammar.repeatable.contains name || (g.value? name).isNone) then
      .ok { g with values := g.values ++ [(name, value)] }
    else .error .misuse
  | none => .error .misuse

def addAll (grammar : Grammar) (g : Gathered) (values : List String) : Except Stop Gathered :=
  values.foldlM grammar.addPositional g

/-- Whether an argument can be the value of the option before it. -/
def isValue (argument : String) : Bool := !argument.startsWith "-" || argument = "-"

/-- The name of an option with two dashes, and the value behind an equals sign. -/
def splitOption (argument : String) : String × Option String :=
  let body := argument.toList.drop 2
  match body.dropWhile (· ≠ '=') with
  | _ :: value => (String.ofList (body.takeWhile (· ≠ '=')), some (String.ofList value))
  | [] => (String.ofList body, none)

def gather (grammar : Grammar) (g : Gathered) : List String → Except Stop Gathered
  | [] => .ok g
  | [argument] =>
    if argument = "--" then .ok g
    else if isValue argument then grammar.addPositional g argument
    else if argument = "-h" then .error .help
    else if !argument.startsWith "--" then .error .misuse
    else
      match splitOption argument with
      | (name, some value) => grammar.addValue g name value
      | (name, none) => grammar.addFlag g name
  | argument :: next :: rest =>
    if argument = "--" then grammar.addAll g (next :: rest)
    else if isValue argument then do
      gather grammar (← grammar.addPositional g argument) (next :: rest)
    else if argument = "-h" then .error .help
    else if !argument.startsWith "--" then .error .misuse
    else
      match splitOption argument with
      | (name, some value) => do gather grammar (← grammar.addValue g name value) (next :: rest)
      | (name, none) =>
        if (grammar.options.lookup name).isNone then do
          gather grammar (← grammar.addFlag g name) (next :: rest)
        else if isValue next then do gather grammar (← grammar.addValue g name next) rest
        else .error .misuse

/-- The arguments of a command; no positional argument may be missing. -/
def read (grammar : Grammar) (arguments : List String) : Except Stop Gathered := do
  let g ← grammar.gather {} arguments
  if g.positionals.length = grammar.positionals.length then return g else .error .misuse

end Grammar

/-! ## Commands -/

structure FetchOptions where
  entity : String
  filter : Option String := none
  localFilter : Option String := none
  select : List String := []
  limit : Option Nat := none
  count : Bool := false
  crossCompany : Bool := false
  /-- A settings file; without one, the environment is asked. -/
  config : Option String := none
  deriving DecidableEq

inductive Command where
  | compile (predicate : String) (labels : Bool)
  | eval (predicate records : String) (labels : Bool)
  | fetch (options : FetchOptions)
  deriving DecidableEq

namespace Command

def isPath (value : String) : Bool := !value.isEmpty

def limit? (value : String) : Option Nat :=
  (Text.Digits.readNat? value.toList).filter (· < 0x10000000000000000)

def anyValue (_ : String) : Bool := true

def compileGrammar : Grammar := { flags := ["sentinel"], positionals := [isPath] }

def evalGrammar : Grammar := { flags := ["sentinel"], positionals := [isPath, isPath] }

def fetchGrammar : Grammar where
  flags := ["count", "cross-company"]
  options := [("filter", isPath), ("local-filter", isPath), ("select", anyValue),
    ("limit", fun v => (limit? v).isSome), ("config", isPath)]
  repeatable := ["select"]
  positionals := [anyValue]

/-- The variable that names the settings file if no option does. -/
def configVariable : String := "ODQ_CONFIG"

/-- Without the option, the settings file of the environment counts; its name may not be empty. -/
def config (given inherited : Option String) : Except Stop (Option String) :=
  match given, inherited with
  | some path, _ => .ok (some path)
  | none, some path => if isPath path then .ok (some path) else .error .misuse
  | none, none => .ok none

def splitCommas (value : String) : List String :=
  (value.toList.splitOn ',').map String.ofList

def parseCompile (arguments : List String) : Except Stop Command := do
  let g ← compileGrammar.read arguments
  match g.positionals with
  | [predicate] => return .compile predicate (g.has "sentinel")
  | _ => .error .misuse

def parseEval (arguments : List String) : Except Stop Command := do
  let g ← evalGrammar.read arguments
  match g.positionals with
  | [predicate, records] => return .eval predicate records (g.has "sentinel")
  | _ => .error .misuse

def parseFetch (inherited : Option String) (arguments : List String) : Except Stop Command := do
  let g ← fetchGrammar.read arguments
  let config ← config (g.value? "config") inherited
  match g.positionals with
  | [entity] =>
    return .fetch {
      entity, config
      filter := g.value? "filter"
      localFilter := g.value? "local-filter"
      select := (g.allValues "select").flatMap splitCommas
      limit := (g.value? "limit").bind limit?
      count := g.has "count"
      crossCompany := g.has "cross-company" }
  | _ => .error .misuse

/-- Help is given on the program or on one of its commands. -/
def help : List String → Stop
  | [] => .help
  | [topic] => if ["compile", "eval", "fetch", "help"].contains topic then .help else .misuse
  | _ => .misuse

/-- The command that the arguments of the program name; `inherited` is the settings file of the
environment. -/
def parse (inherited : Option String) : List String → Except Stop Command
  | [] => .error .misuse
  | name :: rest =>
    if name = "compile" then parseCompile rest
    else if name = "eval" then parseEval rest
    else if name = "fetch" then parseFetch inherited rest
    else if name = "help" then .error (help rest)
    else if name = "-h" ∨ name = "--help" then .error .help
    else .error .misuse

def files : Command → List String
  | .compile predicate _ => [predicate]
  | .eval predicate records _ => [predicate, records]
  | .fetch o => o.config.toList ++ o.filter.toList ++ o.localFilter.toList

end Command

end RecordQuery.CommandLine
