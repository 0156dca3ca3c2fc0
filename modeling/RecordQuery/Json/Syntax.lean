import RecordQuery.Number.Notation
import RecordQuery.Text.Utf8

/-!
# The syntax of JSON text

A text is cut into tokens, and a stack of open brackets turns the tokens into a tree. The tree
holds names, strings and numbers as they are written; what they stand for is decided when a part
of the tree is decoded. Characters that are missing because of malformed UTF-8 are allowed in
strings here.
-/
namespace RecordQuery.Json.Syntax

/-- A piece of a string: a character, perhaps missing, or an escaped UTF-16 unit. -/
inductive Piece where
  | char (c : Option Char)
  | unit (code : Nat)
  deriving DecidableEq, Repr

inductive Tree where
  | null
  | boolean (value : Bool)
  | number (numeral : Numeral)
  | string (pieces : List Piece)
  | array (items : List Tree)
  | object (members : List (List Piece × Tree))

inductive Token where
  | openArray
  | closeArray
  | openObject
  | closeObject
  | comma
  | colon
  | string (pieces : List Piece)
  | null
  | boolean (value : Bool)
  | number (numeral : Numeral)

def escapes : List (Char × Char) :=
  [('"', '"'), ('\\', '\\'), ('/', '/'), ('b', '\x08'), ('f', '\x0c'), ('n', '\n'), ('r', '\r'),
    ('t', '\t')]

/-- The pieces between the quotes; a control character or an unknown escape is an error. -/
def pieces? : List (Option Char) → Option (List Piece)
  | [] => some []
  | some '\\' :: some 'u' :: a :: b :: c :: d :: rest => do
    let code ← ([a, b, c, d].mapM id).bind (Text.Digits.inRadix? 16)
    return .unit code :: (← pieces? rest)
  | some '\\' :: some e :: rest => do
    return .char (some (← escapes.lookup e)) :: (← pieces? rest)
  | some '\\' :: _ => none
  | some c :: rest => if c.toNat < 0x20 then none else (pieces? rest).map (.char (some c) :: ·)
  | none :: rest => (pieces? rest).map (.char none :: ·)

/-- A number: no superfluous leading zero, and no empty run of digits. -/
def numeral? (text : List Char) : Option Numeral := do
  let (negative, body) := match text with
    | '-' :: rest => (true, rest)
    | rest => (false, rest)
  let n ← Numeral.split? negative body
  let emptyFraction := match n.fraction with
    | some digits => digits.isEmpty
    | none => false
  if n.whole.isEmpty || (1 < n.whole.length && n.whole.head? = some '0') || emptyFraction then
    none
  else return n

def word? (text : List Char) : Option Token :=
  if text = "null".toList then some .null
  else if text = "true".toList then some (.boolean true)
  else if text = "false".toList then some (.boolean false)
  else (numeral? text).map .number

def punctuation? (c : Char) : Option Token :=
  if c = '[' then some .openArray
  else if c = ']' then some .closeArray
  else if c = '\x7b' then some .openObject
  else if c = '\x7d' then some .closeObject
  else if c = ',' then some .comma
  else if c = ':' then some .colon
  else none

def isBlank (c : Char) : Bool := c = ' ' || c = '\n' || c = '\r' || c = '\t'

/-- Where the reader of tokens stands; what it has read of a token is held in reverse. -/
inductive Place where
  | between
  | word (read : List Char)
  | string (read : List (Option Char))
  | escape (read : List (Option Char))

structure Scanner where
  place : Place
  tokens : List Token

/-- Ends the word that is being read, if any. -/
def Scanner.flush (s : Scanner) : Option Scanner :=
  match s.place with
  | .between => some s
  | .word read => (word? read.reverse).map fun t => ⟨.between, t :: s.tokens⟩
  | _ => none

def Scanner.step (s : Scanner) (c : Option Char) : Option Scanner :=
  match s.place, c with
  | .string read, some '"' => do
    return ⟨.between, .string (← pieces? read.reverse) :: s.tokens⟩
  | .string read, some '\\' => some { s with place := .escape (some '\\' :: read) }
  | .string read, c => some { s with place := .string (c :: read) }
  | .escape read, c => some { s with place := .string (c :: read) }
  | _, none => none
  | place, some c =>
    if c = '"' then s.flush.map fun s => { s with place := .string [] }
    else if isBlank c then s.flush
    else match punctuation? c with
      | some t => s.flush.map fun s => { s with tokens := t :: s.tokens }
      | none =>
        match place with
        | .word read => some { s with place := .word (c :: read) }
        | _ => some { s with place := .word [c] }

def tokens? (text : List (Option Char)) : Option (List Token) := do
  let s ← text.foldlM Scanner.step ⟨.between, []⟩
  return (← s.flush).tokens.reverse

/-- An open bracket with what stands in it so far, in reverse. -/
inductive Frame where
  | array (items : List Tree)
  | object (members : List (List Piece × Tree))
  | member (name : List Piece)

inductive Expected where
  | value
  | itemOrClose
  | name
  | nameOrClose
  | colon (name : List Piece)
  | commaOrClose
  | nothing (tree : Tree)

structure Builder where
  expected : Expected
  stack : List Frame

/-- Hands a finished tree to the bracket around it. -/
def Builder.complete (tree : Tree) : List Frame → Option Builder
  | [] => some ⟨.nothing tree, []⟩
  | .array items :: stack => some ⟨.commaOrClose, .array (tree :: items) :: stack⟩
  | .member name :: .object members :: stack =>
    some ⟨.commaOrClose, .object ((name, tree) :: members) :: stack⟩
  | _ => none

def Builder.close (b : Builder) (object : Bool) : Option Builder :=
  match b.stack with
  | .array items :: stack =>
    if object then none else Builder.complete (.array items.reverse) stack
  | .object members :: stack =>
    if object then Builder.complete (.object members.reverse) stack else none
  | _ => none

def Builder.open (b : Builder) (token : Token) : Option Builder :=
  match token with
  | .openArray => some ⟨.itemOrClose, .array [] :: b.stack⟩
  | .openObject => some ⟨.nameOrClose, .object [] :: b.stack⟩
  | .string pieces => Builder.complete (.string pieces) b.stack
  | .null => Builder.complete .null b.stack
  | .boolean value => Builder.complete (.boolean value) b.stack
  | .number numeral => Builder.complete (.number numeral) b.stack
  | _ => none

def Builder.step (b : Builder) (token : Token) : Option Builder :=
  match b.expected, token with
  | .itemOrClose, .closeArray => b.close false
  | .value, t | .itemOrClose, t => b.open t
  | .nameOrClose, .closeObject => b.close true
  | .name, .string name | .nameOrClose, .string name => some { b with expected := .colon name }
  | .colon name, .colon => some ⟨.value, .member name :: b.stack⟩
  | .commaOrClose, .closeArray => b.close false
  | .commaOrClose, .closeObject => b.close true
  | .commaOrClose, .comma =>
    match b.stack with
    | .array _ :: _ => some { b with expected := .value }
    | .object _ :: _ => some { b with expected := .name }
    | _ => none
  | _, _ => none

def parse? (text : List (Option Char)) : Option Tree := do
  let b ← (← tokens? text).foldlM Builder.step ⟨.value, []⟩
  match b.expected with
  | .nothing tree => some tree
  | _ => none

end RecordQuery.Json.Syntax
