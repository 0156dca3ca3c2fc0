import RecordQuery.Yaml.Scalar
import RecordQuery.Yaml.Tag

/-!
# YAML tokens

A text is cut into the signs, names and scalars that it is made of. Where columns divide the
parts of a collection, tokens mark its start and its end. Whether a scalar or a collection is the
key of a member is seen only at the colon behind it, so places where a key may have begun are
kept until then.
-/
namespace RecordQuery.Yaml

inductive Token where
  | directive (d : Directive)
  | documentStart
  | documentEnd
  /-- A sequence or a mapping whose parts columns divide, and the end of either. -/
  | sequenceStart
  | mappingStart
  | blockEnd
  | item
  | key
  | value
  | openBracket
  | closeBracket
  | openBrace
  | closeBrace
  | comma
  /-- The name of the node that follows, and a name in the place of the node. -/
  | anchor (name : List Char)
  | reference (name : List Char)
  | tag (t : Tag.Written)
  | scalar (text : List Char) (style : Style)
  deriving DecidableEq

structure Candidate where
  line : Nat
  column : Nat
  /-- How many tokens stand before it. -/
  position : Nat
  /-- Nothing but a key can stand here. -/
  required : Bool

/-- A key is on one line and is not too long. -/
def Candidate.isStale (c : Candidate) (now : Place) : Bool :=
  c.line < now.line || c.column + 1024 < now.column

structure Scan where
  place : Place
  /-- The last one first. -/
  tokens : List Token := []
  /-- The columns of the collections in block style that are open, the innermost first. -/
  columns : List Nat := []
  candidate : Option Candidate := none
  /-- The candidates in front of the brackets that are open. -/
  outer : List (Option Candidate) := []
  /-- Whether a key may begin at the place. -/
  keyAllowed : Bool := true

namespace Scan

/-- Inside brackets columns mean nothing. -/
def inFlow (s : Scan) : Bool := !s.outer.isEmpty

/-- The least column of what belongs to the innermost collection. -/
def least (s : Scan) : Nat :=
  match s.columns with
  | [] => 0
  | column :: _ => column + 1

def emit (s : Scan) (t : Token) : Scan := { s with tokens := t :: s.tokens }

def take (s : Scan) (t : Token) (n : Nat) : Scan := { s.emit t with place := s.place.pass n }

/-- Adds a token that reaches to the given end of the text. -/
def takeUpTo (s : Scan) (t : Token) (rest : List Char) : Scan :=
  { s.emit t with place := s.place.upTo rest }

/-! ## Between tokens -/

/-- Passes over blanks, comments and line breaks. A tab does not indent a line in block style, and
a key may begin on the next line. -/
def skipFrom (flow comment keyAllowed : Bool) (line column : Nat) : List Char → Place × Bool
  | [] => (⟨[], line, column⟩, keyAllowed)
  | c :: rest =>
    if isBreak c then skipFrom flow false (keyAllowed || !flow) (line + 1) 0 rest
    else if comment || c = ' ' || (c = '\t' && (flow || !keyAllowed)) ||
        (c = '\uFEFF' && column = 0) then
      skipFrom flow comment keyAllowed line (column + 1) rest
    else if c = '#' then skipFrom flow true keyAllowed line (column + 1) rest
    else (⟨c :: rest, line, column⟩, keyAllowed)

def skip (s : Scan) : Scan :=
  let (place, keyAllowed) :=
    skipFrom s.inFlow false s.keyAllowed s.place.line s.place.column s.place.rest
  { s with place, keyAllowed }

/-- Forgets a candidate that is no key, if that is possible. -/
def drop? (dropped : Candidate → Bool) : Option Candidate → Option (Option Candidate)
  | none => some none
  | some c => if !dropped c then some (some c) else if c.required then none else some none

def dropStale? (s : Scan) : Option Scan := do
  return { s with
    candidate := ← drop? (·.isStale s.place) s.candidate
    outer := ← s.outer.mapM (drop? (·.isStale s.place)) }

def dropCandidate? (s : Scan) : Option Scan := do
  return { s with candidate := ← drop? (fun _ => true) s.candidate }

/-- Remembers the place, if a key may begin there. -/
def mark? (s : Scan) : Option Scan := do
  if s.keyAllowed then
    let s ← s.dropCandidate?
    let required := !s.inFlow && s.columns.head? = some s.place.column
    return { s with
      candidate := some ⟨s.place.line, s.place.column, s.tokens.length, required⟩ }
  else return s

/-- Ends the collections in block style whose column is not `isKept`. -/
def close (s : Scan) (isKept : Nat → Bool) : Scan :=
  if s.inFlow then s
  else
    let ended := s.columns.takeWhile (!isKept ·)
    { s with
      tokens := List.replicate ended.length .blockEnd ++ s.tokens
      columns := s.columns.dropWhile (!isKept ·) }

/-- Whether a part of a collection begins a new one in block style. -/
def begins (s : Scan) (column : Nat) : Bool := !s.inFlow && s.columns.head?.all (· < column)

/-- Begins a collection in the column of the place, if there is none; its parts may begin only
where a key may. -/
def begin? (s : Scan) (t : Token) : Option Scan :=
  if s.inFlow then some s
  else if !s.keyAllowed then none
  else if s.begins s.place.column then
    some { s.emit t with columns := s.place.column :: s.columns }
  else some s

/-! ## Tokens -/

def directive? (s : Scan) : Option Scan := do
  let s ← (s.close fun _ => false).dropCandidate?
  let (d, rest) ← Directive.read? (s.place.rest.drop 1)
  return { s.takeUpTo (.directive d) rest with keyAllowed := false }

def marker? (s : Scan) (t : Token) : Option Scan := do
  let s ← (s.close fun _ => false).dropCandidate?
  return { s.take t 3 with keyAllowed := false }

def openFlow? (s : Scan) (t : Token) : Option Scan := do
  let s ← s.mark?
  return { s.take t 1 with candidate := none, outer := s.candidate :: s.outer, keyAllowed := true }

def closeFlow? (s : Scan) (t : Token) : Option Scan := do
  let s ← s.dropCandidate?
  let s := { s.take t 1 with keyAllowed := false }
  match s.outer with
  | [] => return s
  | candidate :: outer => return { s with candidate, outer }

def comma? (s : Scan) : Option Scan := do
  let s ← s.dropCandidate?
  return { s.take .comma 1 with keyAllowed := true }

def item? (s : Scan) : Option Scan := do
  let s ← (← s.begin? .sequenceStart).dropCandidate?
  return { s.take .item 1 with keyAllowed := true }

def key? (s : Scan) : Option Scan := do
  let s ← (← s.begin? .mappingStart).dropCandidate?
  return { s.take .key 1 with keyAllowed := !s.inFlow }

/-- What stands behind the candidate becomes a key, perhaps the first one of a mapping. -/
def insertKey (s : Scan) (c : Candidate) : Scan :=
  let n := s.tokens.length - c.position
  let starts := s.begins c.column
  { s with
    tokens := s.tokens.take n ++ .key :: ((if starts then [.mappingStart] else []) ++
      s.tokens.drop n)
    columns := if starts then c.column :: s.columns else s.columns
    candidate := none
    keyAllowed := false }

def value? (s : Scan) : Option Scan :=
  match s.candidate with
  | some c => some ((s.insertKey c).take .value 1)
  | none => do
    let s ← s.begin? .mappingStart
    return { s.take .value 1 with keyAllowed := !s.inFlow }

def named? (s : Scan) (t : List Char → Token) : Option Scan := do
  let s ← s.mark?
  let text := s.place.rest.drop 1
  let name := text.takeWhile isNameChar
  let rest := text.dropWhile isNameChar
  if name.isEmpty || !rest.head?.all fun c => isSpace c || "?:,]\x7d%@`".toList.contains c then none
  else return { s.takeUpTo (t name) rest with keyAllowed := false }

def tag? (s : Scan) : Option Scan := do
  let s ← s.mark?
  let (t, rest) ← Tag.written? s.place.rest
  if endsWord rest || (s.inFlow && rest.head? = some ',') then
    return { s.takeUpTo (.tag t) rest with keyAllowed := false }
  else none

def block? (s : Scan) (folded : Bool) : Option Scan := do
  if s.inFlow then none
  else
    let s ← s.dropCandidate?
    let (text, rest) ← Scalar.block? folded s.least (s.place.rest.drop 1)
    let style := if folded then .folded else .literal
    return { s.takeUpTo (.scalar text style) rest with keyAllowed := true }

def quoted? (s : Scan) : Option Scan := do
  let s ← s.mark?
  let (text, rest) ← Scalar.quoted? s.place.rest
  return { s.takeUpTo (.scalar text .quoted) rest with keyAllowed := false }

def plain? (s : Scan) : Option Scan := do
  let s ← s.mark?
  let p ← Scalar.plain? s.inFlow s.least s.place.rest
  return { s.takeUpTo (.scalar p.text .plain) p.rest with keyAllowed := p.broken }

/-- The token that begins with the given character, which stands at the place. -/
def token? (s : Scan) (c : Char) : Option Scan :=
  let single := endsWord (s.place.rest.drop 1)
  match c with
  | '[' => s.openFlow? .openBracket
  | '\x7b' => s.openFlow? .openBrace
  | ']' => s.closeFlow? .closeBracket
  | '\x7d' => s.closeFlow? .closeBrace
  | ',' => s.comma?
  | '-' => if single then s.item? else s.plain?
  | '?' => if s.inFlow || single then s.key? else s.plain?
  | ':' => if s.inFlow || single then s.value? else s.plain?
  | '*' => s.named? .reference
  | '&' => s.named? .anchor
  | '!' => s.tag?
  | '|' => s.block? false
  | '>' => s.block? true
  | '\'' | '"' => s.quoted?
  | '#' | '%' | '@' | '\x60' | ' ' | '\t' => none
  | _ => s.plain?

def next? (s : Scan) : Option Scan :=
  let atStart := s.place.column = 0
  match s.place.rest with
  | [] => none
  | c :: _ =>
    if atStart && c = '%' then s.directive?
    else if atStart && isMarker '-' s.place.rest then s.marker? .documentStart
    else if atStart && isMarker '.' s.place.rest then s.marker? .documentEnd
    else s.token? c

/-- Goes on to the end of the text, where no key may be missing. -/
def finish? : Nat → Scan → Option (List Token)
  | 0, _ => none
  | fuel + 1, s => do
    let s ← s.skip.dropStale?
    if s.place.rest.isEmpty then
      return (← (s.close fun _ => false).dropCandidate?).tokens.reverse
    else
      let column := s.place.column
      finish? fuel (← (s.close (· ≤ column)).next?)

end Scan

/-- The tokens of a text, if its parts are well formed. -/
def tokens? (text : String) : Option (List Token) :=
  let chars := text.toList
  if chars.all isAllowed then
    let rest := unifyBreaks chars
    Scan.finish? (rest.length + 1) { place := { rest } }
  else none

end RecordQuery.Yaml
