import RecordQuery.Yaml.Token

/-!
# YAML nodes

What a document holds: a tree of scalars, sequences and mappings. A node may carry a tag and a
name, and a reference stands for the node of that name. The nodes are read from tokens.
-/
namespace RecordQuery.Yaml

/-- What is written in front of a node. Names are numbered in the order in which they are given
to nodes. -/
structure Properties where
  tag : Option Tag := none
  label : Option Nat := none

def Properties.isEmpty (p : Properties) : Bool := p.tag.isNone && p.label.isNone

inductive Node where
  | scalar (p : Properties) (text : List Char) (style : Style)
  | sequence (p : Properties) (items : List Node)
  | mapping (p : Properties) (members : List (Node × Node))
  | reference (label : Nat)

namespace Node

/-- What stands where nothing is written. -/
def empty (p : Properties := {}) : Node := .scalar p [] .plain

end Node

/-! ## Reading tokens -/

/-- The tokens to come, and the names of the nodes so far with their numbers. -/
structure Input where
  tokens : List Token
  labels : List (List Char × Nat) := []

abbrev Reading := StateT Input Option

namespace Reading

def peek : Reading (Option Token) := do return (← get).tokens.head?

def sees (ts : List Token) : Reading Bool := do return (← peek).any ts.contains

def skip : Reading Unit := modify fun i => { i with tokens := i.tokens.drop 1 }

def accept (t : Token) : Reading Bool := do
  let found ← sees [t]
  if found then skip
  return found

def expect (t : Token) : Reading Unit := do if !(← accept t) then failure

/-- Gives a number to a name: how many names there are. -/
def name (label : List Char) : Reading Nat := do
  let labels := (← get).labels
  modify fun i => { i with
    labels := (label, labels.length) :: labels.filter fun l => l.1 ≠ label }
  return labels.length

def anchor : Reading (Option Nat) := do
  match ← peek with
  | some (.anchor label) => do
    skip
    return some (← name label)
  | _ => return none

def tag (handles : Handles) : Reading (Option Tag) := do
  match ← peek with
  | some (.tag t) => do
    skip
    match handles.resolve? t with
    | some t => return some t
    | none => failure
  | _ => return none

def properties (handles : Handles) : Reading Properties := do
  match ← anchor with
  | some label => return { label := some label, tag := ← tag handles }
  | none =>
    let tag ← tag handles
    return { tag, label := ← if tag.isSome then anchor else pure none }

/-- Where a node stands decides which collections may begin there. -/
inductive Context where
  | flow
  | block
  /-- In a mapping the items of a sequence need not be indented. -/
  | member
  deriving DecidableEq

/-- The tokens that follow a part of a mapping in block style that is left out. -/
def memberEnds : List Token := [.key, .value, .blockEnd]

mutual

def node (handles : Handles) : Nat → Context → Reading Node
  | 0, _ => failure
  | fuel + 1, context => do
    match ← peek with
    | some (.reference label) =>
      skip
      match (← get).labels.lookup label with
      | some n => return .reference n
      | none => failure
    | _ =>
      let p ← properties handles
      match ← peek, context with
      | some (.scalar text style), _ => do
        skip
        return .scalar p text style
      | some .openBracket, _ => do
        skip
        return .sequence p (← flowItems handles fuel true)
      | some .openBrace, _ => do
        skip
        return .mapping p (← flowMembers handles fuel true)
      | some .item, .member => return .sequence p (← looseItems handles fuel)
      | some .sequenceStart, .block | some .sequenceStart, .member => do
        skip
        return .sequence p (← items handles fuel)
      | some .mappingStart, .block | some .mappingStart, .member => do
        skip
        return .mapping p (← members handles fuel)
      | _, _ => if p.isEmpty then failure else return .empty p

/-- A node, or nothing in front of one of the given tokens. -/
def nodeBefore (handles : Handles) : Nat → Context → List Token → Reading Node
  | 0, _, _ => failure
  | fuel + 1, context, ends => do
    if ← sees ends then return .empty else node handles fuel context

def valueBefore (handles : Handles) : Nat → Context → List Token → Reading Node
  | 0, _, _ => failure
  | fuel + 1, context, ends => do
    if ← accept .value then nodeBefore handles fuel context ends else return .empty

/-- The items of a sequence in block style, up to its end. -/
def items (handles : Handles) : Nat → Reading (List Node)
  | 0 => failure
  | fuel + 1 => do
    if ← accept .blockEnd then return []
    else
      expect .item
      let n ← nodeBefore handles fuel .block [.item, .blockEnd]
      return n :: (← items handles fuel)

/-- The items of a sequence in block style that is not indented. -/
def looseItems (handles : Handles) : Nat → Reading (List Node)
  | 0 => failure
  | fuel + 1 => do
    if ← accept .item then
      let n ← nodeBefore handles fuel .block (.item :: memberEnds)
      return n :: (← looseItems handles fuel)
    else return []

/-- The members of a mapping in block style, up to its end. -/
def members (handles : Handles) : Nat → Reading (List (Node × Node))
  | 0 => failure
  | fuel + 1 => do
    if ← accept .blockEnd then return []
    else
      expect .key
      let key ← nodeBefore handles fuel .member memberEnds
      let value ← valueBefore handles fuel .member memberEnds
      return (key, value) :: (← members handles fuel)

/-- The items of a sequence in brackets, up to its end; all but the first follow a comma. An item
with a question mark or a colon is a mapping of one member; where its key is left out, the token
behind the question mark counts for nothing. -/
def flowItems (handles : Handles) : Nat → Bool → Reading (List Node)
  | 0, _ => failure
  | fuel + 1, first => do
    if ← accept .closeBracket then return []
    else
      if !first then expect .comma
      if ← accept .closeBracket then return []
      else if ← accept .key then
        let missing ← sees [.value, .comma, .closeBracket]
        let key ← nodeBefore handles fuel .flow [.value, .comma, .closeBracket]
        if missing then skip
        let value ← valueBefore handles fuel .flow [.comma, .closeBracket]
        return .mapping {} [(key, value)] :: (← flowItems handles fuel false)
      else
        let n ← node handles fuel .flow
        return n :: (← flowItems handles fuel false)

/-- The members of a mapping in braces, up to its end; all but the first follow a comma. -/
def flowMembers (handles : Handles) : Nat → Bool → Reading (List (Node × Node))
  | 0, _ => failure
  | fuel + 1, first => do
    if ← accept .closeBrace then return []
    else
      if !first then expect .comma
      if ← accept .closeBrace then return []
      else if ← accept .key then
        let key ← nodeBefore handles fuel .flow [.value, .comma, .closeBrace]
        let value ← valueBefore handles fuel .flow [.comma, .closeBrace]
        return (key, value) :: (← flowMembers handles fuel false)
      else
        let key ← node handles fuel .flow
        return (key, .empty) :: (← flowMembers handles fuel false)

end

def directive? : Token → Option Directive
  | .directive d => some d
  | _ => none

/-- The only document of a text. A document with directives starts with a line of its own. -/
def document : Reading Node := do
  let tokens := (← get).tokens
  let fuel := 4 * tokens.length + 4
  let directives := (tokens.takeWhile fun t => (directive? t).isSome).filterMap directive?
  let rest := tokens.drop directives.length
  modify fun i => { i with tokens := rest }
  match Handles.ofDirectives? directives with
  | none => failure
  | some handles =>
    let started ← accept .documentStart
    if rest.isEmpty || (!started && !directives.isEmpty) then failure
    else
      let n ←
        if started && (← peek).all (fun t => (directive? t).isSome ||
            t = .documentStart || t = .documentEnd) then
          pure .empty
        else node handles fuel .block
      let rest := (← get).tokens.dropWhile (· = .documentEnd)
      if rest.isEmpty then return n else failure

end Reading

/-- The root of the only document of a text. -/
def parse? (text : String) : Option Node := do
  let (n, _) ← Reading.document.run { tokens := ← tokens? text }
  return n

end RecordQuery.Yaml
