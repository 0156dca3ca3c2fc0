import RecordQuery.Text.Digits
import RecordQuery.Yaml.Place

/-!
# YAML scalars

The four ways to write a scalar: plain, between single or double quotes, and as a block of lines.
A line break inside a scalar becomes a blank, and of several breaks all but one are kept; only a
literal block keeps its lines as they are.
-/
namespace RecordQuery.Yaml

/-- How a scalar is written; only a plain one may stand for something else than its text. -/
inductive Style where
  | plain | quoted | literal | folded
  deriving DecidableEq, Repr

namespace Scalar

/-- What stays of the blanks and line breaks between two words. -/
def fold (gap : List Char) : List Char :=
  match gap.filter isBreak with
  | [] => gap
  | c :: breaks => if c ≠ '\n' then c :: breaks else if breaks.isEmpty then [' '] else breaks

/-! ## Plain scalars -/

/-- The characters that open, close and divide collections in flow style. -/
def isFlowIndicator (c : Char) : Bool := ",[]\x7b\x7d".toList.contains c

/-- The word at the front; a colon ends it before a blank, and no indicator may follow a colon in
flow style. -/
def word? (flow : Bool) : List Char → Option (List Char × List Char)
  | [] => some ([], [])
  | c :: rest =>
    if isSpace c || (flow && isFlowIndicator c) || (c = ':' && endsWord rest) then
      some ([], c :: rest)
    else if flow && c = ':' && rest.head?.any (fun d => d = '?' || isFlowIndicator d) then none
    else (word? flow rest).map fun r => (c :: r.1, r.2)

/-- The lines of a gap behind its first break. -/
def gapLines (gap : List Char) : List (List Char) :=
  ((gap.map fun c => if isBreak c then '\n' else c).splitOn '\n').drop 1

/-- Whether a tab stands where a line ought to be indented. -/
def hasStrayTab (least : Nat) (gap : List Char) : Bool :=
  (gapLines gap).any fun line => (line.takeWhile (· = ' ')).length < least && line.contains '\t'

/-- Whether a plain scalar ends with the gap before the given text. -/
def endsPlain (flow : Bool) (least : Nat) (gap next : List Char) : Bool :=
  next.head? = some '#' ||
    (gap.any isBreak && ((!flow && columnBehind gap < least) ||
      (columnBehind gap = 0 && dividesDocuments next)))

/-- A plain scalar, whether a line break follows it, and the text behind it and its gap. -/
structure Plain where
  text : List Char
  broken : Bool
  rest : List Char

def plainFrom? (flow : Bool) (least : Nat) : Nat → List Char → Option Plain
  | 0, _ => none
  | fuel + 1, text => do
    let (word, rest) ← word? flow text
    let gap := rest.takeWhile isSpace
    let next := rest.dropWhile isSpace
    let here : Plain := ⟨word, gap.any isBreak, next⟩
    if gap.isEmpty then return { here with broken := false }
    else if hasStrayTab least gap then none
    else if endsPlain flow least gap next then return here
    else
      let more ← plainFrom? flow least fuel next
      if more.text.isEmpty then return here
      else return { more with text := word ++ fold gap ++ more.text }

/-- A plain scalar whose lines after the first are indented by at least `least` columns. -/
def plain? (flow : Bool) (least : Nat) (text : List Char) : Option Plain :=
  plainFrom? flow least (text.length + 1) text

/-! ## Quoted scalars -/

/-- Goes on behind a gap; a line that divides documents must not stand between quotes. -/
def behindGap? (gap next : List Char) : Option (List Char) :=
  if gap.any isBreak && columnBehind gap = 0 && dividesDocuments next then none else some next

/-- The text up to the closing quote, which is written twice inside. -/
def single? : Nat → List Char → Option (List Char × List Char)
  | 0, _ | _, [] => none
  | fuel + 1, c :: rest =>
    if c = '\'' then
      match rest with
      | '\'' :: rest' => (single? fuel rest').map fun r => ('\'' :: r.1, r.2)
      | _ => some ([], rest)
    else if isSpace c then do
      let gap := (c :: rest).takeWhile isSpace
      let next ← behindGap? gap ((c :: rest).dropWhile isSpace)
      (single? fuel next).map fun r => (fold gap ++ r.1, r.2)
    else (single? fuel rest).map fun r => (c :: r.1, r.2)

def escapes : List (Char × Char) :=
  [('0', '\x00'), ('a', '\x07'), ('b', '\x08'), ('t', '\t'), ('\t', '\t'), ('n', '\n'),
    ('v', '\x0b'), ('f', '\x0c'), ('r', '\r'), ('e', '\x1b'), (' ', ' '), ('"', '"'), ('/', '/'),
    ('\\', '\\'), ('N', '\u0085'), ('_', '\u00a0'), ('L', '\u2028'), ('P', '\u2029')]

/-- How many digits follow the letter of an escape. -/
def escapeLength? : Char → Option Nat
  | 'x' => some 2
  | 'u' => some 4
  | 'U' => some 8
  | _ => none

def ofCode? (n : Nat) : Option Char := if n.isValidChar then some (Char.ofNat n) else none

/-- The character an escape stands for, and the text behind it. -/
def escape? (e : Char) (rest : List Char) : Option (Char × List Char) :=
  match escapeLength? e with
  | none => (escapes.lookup e).map fun c => (c, rest)
  | some n =>
    let digits := rest.take n
    if digits.length < n then none
    else ((Text.Digits.inRadix? 16 digits).bind ofCode?).map fun c => (c, rest.drop n)

/-- The text up to the closing quote. Behind an escaped line break only further breaks are kept
of a gap. -/
def double? : Nat → List Char → Option (List Char × List Char)
  | 0, _ | _, [] => none
  | fuel + 1, c :: rest =>
    if c = '"' then some ([], rest)
    else if c = '\\' && rest.head?.any isBreak then do
      let gap := rest.takeWhile isSpace
      let next ← behindGap? gap (rest.dropWhile isSpace)
      (double? fuel next).map fun r => ((gap.filter isBreak).drop 1 ++ r.1, r.2)
    else if c = '\\' then
      match rest with
      | [] => none
      | e :: rest => do
        let (c, rest) ← escape? e rest
        (double? fuel rest).map fun r => (c :: r.1, r.2)
    else if isSpace c then do
      let gap := (c :: rest).takeWhile isSpace
      let next ← behindGap? gap ((c :: rest).dropWhile isSpace)
      (double? fuel next).map fun r => (fold gap ++ r.1, r.2)
    else (double? fuel rest).map fun r => (c :: r.1, r.2)

def quoted? (text : List Char) : Option (List Char × List Char) :=
  match text with
  | '\'' :: rest => single? (rest.length + 1) rest
  | '"' :: rest => double? (rest.length + 1) rest
  | _ => none

/-! ## Blocks -/

inductive Ending where
  | strip | clip | keep
  deriving DecidableEq

/-- What stands behind the sign of a block: how its end is treated, and its indentation. -/
structure Header where
  ending : Ending := .clip
  indent : Option Nat := none

def ending? (c : Char) : Option Ending :=
  if c = '-' then some .strip else if c = '+' then some .keep else none

def indent? (c : Char) : Option Nat :=
  if c.isDigit && c ≠ '0' then some (c.toNat - '0'.toNat) else none

/-- The header, whose two parts may stand in either order, and the text behind it. -/
def header (text : List Char) : Header × List Char :=
  match text with
  | c :: rest =>
    match ending? c with
    | some ending =>
      match rest.head?.bind indent? with
      | some n => (⟨ending, some n⟩, rest.drop 1)
      | none => (⟨ending, none⟩, rest)
    | none =>
      match indent? c with
      | some n =>
        match rest.head?.bind ending? with
        | some ending => (⟨ending, some n⟩, rest.drop 1)
        | none => (⟨.clip, some n⟩, rest)
      | none => ({}, text)
  | [] => ({}, [])

structure Line where
  text : List Char
  ending : Option Char

namespace Line

def ofText : List Char → List Line
  | [] => []
  | c :: rest =>
    if isBreak c then ⟨[], some c⟩ :: ofText rest
    else
      match ofText rest with
      | [] => [⟨[c], none⟩]
      | l :: lines => { l with text := c :: l.text } :: lines

def toText (lines : List Line) : List Char := lines.flatMap fun l => l.text ++ l.ending.toList

/-- Nothing of a text is lost in its lines. -/
theorem toText_ofText (text : List Char) : toText (ofText text) = text := by
  induction text with
  | nil => rfl
  | cons c rest ih =>
    rw [ofText]
    split
    · simpa [toText] using ih
    · split
      · next h => simp_all [toText]
      · next l lines h => simp_all [toText]

def indentation (l : Line) : Nat := (l.text.takeWhile (· = ' ')).length

def isEmpty (l : Line) : Bool := l.text.all (· = ' ')

/-- Whether a tab stands where the line is not yet indented by the given number of columns. -/
def hasStrayTab (indent : Nat) (l : Line) : Bool :=
  l.indentation < indent && (l.text.drop l.indentation).head? = some '\t'

end Line

/-- The indentation of a block that does not give it: that of its first line with text, or of the
longest empty line before it. A tab must not begin that line. -/
def detect? (least : Nat) : List Line → Option Nat
  | [] => some (max least 1)
  | l :: lines =>
    if l.isEmpty then (detect? least lines).map (max l.indentation ·)
    else if l.hasStrayTab (l.indentation + 1) then none
    else some (max l.indentation (max least 1))

/-- A block as it is read: the text that is certain, the break after the last line, the breaks of
the empty lines after it, and whether that line starts with a blank. -/
structure Body where
  text : List Char := []
  lastBreak : Option Char := none
  breaks : List Char := []
  blank : Bool := false

namespace Body

/-- Adds a line with its indentation taken off. Two lines of a folded block are joined, unless one
of them starts with a blank. -/
def add (folded : Bool) (b : Body) (text : List Char) (ending : Option Char) : Body :=
  let blank := text.head?.any isBlank
  let joint :=
    if folded && b.lastBreak = some '\n' && !b.blank && !blank then
      if b.breaks.isEmpty then [' '] else []
    else b.lastBreak.toList
  ⟨b.text ++ joint ++ b.breaks ++ text, ending, [], blank⟩

def finish (b : Body) (ending : Ending) : List Char :=
  match ending with
  | .strip => b.text
  | .clip => b.text ++ b.lastBreak.toList
  | .keep => b.text ++ b.lastBreak.toList ++ b.breaks

/-- Reads lines as long as they belong to the block; gives the other lines back. -/
def read? (folded : Bool) (indent : Nat) (b : Body) : List Line → Option (Body × List Line)
  | [] => some (b, [])
  | l :: lines =>
    if indent ≤ l.indentation && l.text.length ≠ indent then
      read? folded indent (b.add folded (l.text.drop indent) l.ending) lines
    else if l.isEmpty then
      read? folded indent { b with breaks := b.breaks ++ l.ending.toList } lines
    else if l.hasStrayTab indent then none
    else some (b, l :: lines)

end Body

/-- The block behind its sign, in a collection whose parts are indented by at least `least`
columns. -/
def block? (folded : Bool) (least : Nat) (text : List Char) :
    Option (List Char × List Char) := do
  let (h, rest) := header text
  let rest := skipComment rest
  let lines := Line.ofText (rest.drop 1)
  let indent ← match h.indent with
    | some n => some (least - 1 + n)
    | none => detect? least lines
  if !endsLine rest then none
  else
    let (b, after) ← ({} : Body).read? folded indent lines
    return (b.finish h.ending, Line.toText after)

end Scalar

end RecordQuery.Yaml
