import RecordQuery.Number.Notation
import RecordQuery.Yaml.Node

/-!
# Values of YAML nodes

What nodes stand for. A plain scalar may stand for nothing, a boolean or a number, and a tag may
demand that it does; all other scalars are texts. References are followed, but not without end.
-/
namespace RecordQuery.Yaml

namespace Scalar

def isOneOf (words : List String) (text : List Char) : Bool := words.any fun w => w.toList = text

def isNull (text : List Char) : Bool := isOneOf ["null", "Null", "NULL", "~"] text

def boolean? (text : List Char) : Option Bool :=
  if isOneOf ["true", "True", "TRUE"] text then some true
  else if isOneOf ["false", "False", "FALSE"] text then some false
  else none

/-- Digits behind a superfluous zero do not make a number. -/
def isZeroPadded (digits : List Char) : Bool :=
  1 < digits.length && digits.head? = some '0' && digits.all Char.isDigit

/-- One or more digits behind a sign for their radix, or decimal digits. -/
def magnitude? (text : List Char) : Option Nat :=
  let inRadix? (radix : Nat) (digits : List Char) : Option Nat :=
    if digits.isEmpty then none else Text.Digits.inRadix? radix digits
  match text with
  | '0' :: 'x' :: digits => inRadix? 16 digits
  | '0' :: 'o' :: digits => inRadix? 8 digits
  | '0' :: 'b' :: digits => inRadix? 2 digits
  | digits => if isZeroPadded digits then none else inRadix? 10 digits

def natural? (text : List Char) : Option Nat :=
  match text with
  | '+' :: rest => magnitude? rest
  | _ => magnitude? text

def negative? (text : List Char) : Option Nat :=
  match text with
  | '-' :: rest => magnitude? rest
  | _ => none

def withoutPlus (text : List Char) : List Char :=
  match text with
  | '+' :: rest => rest
  | _ => text

/-- A finite number with or without a point and an exponent, or a word for infinity or for no
number that starts with a point. -/
def isReal (text : List Char) : Bool :=
  let body := withoutPlus text
  isOneOf [".inf", ".Inf", ".INF"] body || isOneOf ["-.inf", "-.Inf", "-.INF"] text ||
    isOneOf [".nan", ".NaN", ".NAN"] text ||
    ((text = body || !body.head?.any (fun c => c = '+' || c = '-')) &&
      (Binary64.read? body).any Binary64.isFinite)

end Scalar

/-- What a node stands for. Of a number with a minus sign, a point or an exponent only the kind is
kept. -/
inductive Value where
  | null
  | boolean (b : Bool)
  | natural (n : Nat)
  | negative
  | real
  | string (s : String)
  | sequence (items : List Value)
  | mapping (members : List (Value × Value))

namespace Value

/-- An integer; none of the values is one that needs more than sixty-four bits. -/
def ofInteger? (text : List Char) : Option Value :=
  match Scalar.natural? text, Scalar.negative? text with
  | some n, _ => if n < Nat.pow 2 64 then some (.natural n) else none
  | none, some n => if n ≤ Nat.pow 2 63 then some .negative else none
  | none, none => none

/-- Whether an integer is so long that it is read as a number with an exponent. -/
def isLong (text : List Char) : Bool :=
  (Scalar.natural? text).any (Nat.pow 2 128 ≤ ·) || (Scalar.negative? text).any (Nat.pow 2 127 < ·)

def isInteger (text : List Char) : Bool :=
  (Scalar.natural? text).isSome || (Scalar.negative? text).isSome

def ofPlain? (text : List Char) : Option Value :=
  let digits := match text with
    | '+' :: rest | '-' :: rest => rest
    | _ => text
  if text.isEmpty || Scalar.isNull text then some .null
  else
    match Scalar.boolean? text with
    | some b => some (.boolean b)
    | none =>
      if isInteger text && !isLong text then ofInteger? text
      else if !Scalar.isZeroPadded digits && Scalar.isReal text then some .real
      else some (.string (String.ofList text))

/-- A scalar with the given tag. One of the tags for other types than texts must fit. -/
def ofScalar? (tag : Option Tag) (text : List Char) (style : Style) : Option Value :=
  match tag with
  | none => if style = .plain then ofPlain? text else some (.string (String.ofList text))
  | some t =>
    if t = Tag.core "bool" then (Scalar.boolean? text).map .boolean
    else if t = Tag.core "int" then ofInteger? text
    else if t = Tag.core "float" then if Scalar.isReal text then some .real else none
    else if t = Tag.core "null" then if Scalar.isNull text then some .null else none
    else if t.head? = some (UInt8.ofNat '!'.toNat) && style = .plain then ofPlain? text
    else some (.string (String.ofList text))

end Value

mutual

/-- The nodes that have a label, in the order in which they begin. -/
def Node.labelled : Node → List (Nat × Node)
  | .scalar p text style => (p.label.toList.map (·, .scalar p text style))
  | .sequence p items => p.label.toList.map (·, .sequence p items) ++ labelledItems items
  | .mapping p members => p.label.toList.map (·, .mapping p members) ++ labelledMembers members
  | .reference _ => []

def Node.labelledItems : List Node → List (Nat × Node)
  | [] => []
  | n :: rest => n.labelled ++ labelledItems rest

def Node.labelledMembers : List (Node × Node) → List (Nat × Node)
  | [] => []
  | (k, v) :: rest => k.labelled ++ v.labelled ++ labelledMembers rest

/-- How many marks it takes to list the parts of a node: one for a scalar or a reference, two for
the ends of a collection. -/
def Node.size : Node → Nat
  | .scalar _ _ _ | .reference _ => 1
  | .sequence _ items => 2 + sizeItems items
  | .mapping _ members => 2 + sizeMembers members

def Node.sizeItems : List Node → Nat
  | [] => 0
  | n :: rest => n.size + sizeItems rest

def Node.sizeMembers : List (Node × Node) → Nat
  | [] => 0
  | (k, v) :: rest => k.size + v.size + sizeMembers rest

end

/-- What it takes to follow references: the nodes they stand for, and how many more of them may be
followed. -/
structure References where
  /-- Of two nodes with one label the first is meant. -/
  targets : List (Nat × Node)
  left : Nat

/-- Of nodes with one label the last is meant; the number of steps is bounded by the size of the
document. -/
def References.of (root : Node) : References := ⟨root.labelled.reverse, 100 * root.size⟩

abbrev Decoding := StateT References Option

namespace Decoding

/-- The node that a reference stands for; any other node stands for itself. -/
def follow : Node → Decoding Node
  | .reference label => do
    match ← get with
    | ⟨_, 0⟩ => failure
    | ⟨targets, left + 1⟩ =>
      set (⟨targets, left⟩ : References)
      match targets.lookup label with
      | some n => return n
      | none => failure
  | n => return n

/-- The text of a scalar, whatever it stands for. -/
def text (n : Node) : Decoding String := do
  match ← follow n with
  | .scalar _ text _ => return String.ofList text
  | _ => failure

/-- The text of a scalar that may stand for a value of the given type: a plain one, or a literal
block with the tag of the type. -/
def typed (type : String) (n : Node) : Decoding (List Char) := do
  match ← follow n with
  | .scalar p text style =>
    if style = .plain || (style = .literal && p.tag = some (Tag.core type)) then return text
    else failure
  | _ => failure

def boolean (n : Node) : Decoding Bool := do
  match Scalar.boolean? (← typed "bool" n) with
  | some b => return b
  | none => failure

def naturalBelow (bits : Nat) (n : Node) : Decoding Nat := do
  match (Scalar.natural? (← typed "int" n)).filter (· < Nat.pow 2 bits) with
  | some n => return n
  | none => failure

/-- Nothing where a plain scalar is empty or stands for null. With the tag of null it must not be
empty or stand for something else; any other tag makes it something. -/
def optional {α : Type} (read : Node → Decoding α) (n : Node) : Decoding (Option α) := do
  let n ← follow n
  match n with
  | .scalar p text .plain =>
    let null := Scalar.isNull text
    match p.tag with
    | none => if text.isEmpty || null then return none else some <$> read n
    | some t =>
      if t ≠ Tag.core "null" then some <$> read n else if null then return none else failure
  | n => some <$> read n

/-- The value of a node whose collections are nested at most to the given depth. A tag of an
application has no meaning here. -/
def value : Nat → Node → Decoding Value
  | depth, n => do
    let n ← follow n
    match n, depth with
    | .scalar p text style, _ =>
      match if p.tag.any Tag.isLocal then none else Value.ofScalar? p.tag text style with
      | some v => return v
      | none => failure
    | .sequence p items, depth + 1 => do
      if p.tag.any Tag.isLocal then failure
      else return .sequence (← items.mapM (value depth))
    | .mapping p members, depth + 1 => do
      if p.tag.any Tag.isLocal then failure
      else
        return .mapping (← members.mapM fun m => do
          let k ← value depth m.1
          return (k, ← value depth m.2))
    | _, _ => failure

end Decoding

end RecordQuery.Yaml
