/-!
# Places in a YAML text

The characters a text may hold, those that divide words and lines, and a place in a text: what
follows it, and its line and column.
-/
namespace RecordQuery.Yaml

/-- Control characters and the like make a text unreadable wherever they stand. -/
def isAllowed (c : Char) : Bool :=
  let n := c.toNat
  c = '\t' || c = '\n' || c = '\r' || n = 0x85 || (0x20 ≤ n && n ≤ 0x7E) ||
    (0xA0 ≤ n && n ≤ 0xFFFD) || 0x10000 ≤ n

/-- The three ways of ASCII to end a line and the next-line character are all the same. -/
def unifyBreaks : List Char → List Char
  | [] => []
  | '\r' :: '\n' :: rest => '\n' :: unifyBreaks rest
  | c :: rest => (if c = '\r' || c = '\u0085' then '\n' else c) :: unifyBreaks rest

def isBlank (c : Char) : Bool := c = ' ' || c = '\t'

/-- Ends a line. The separators of lines and paragraphs stay what they are in a scalar. -/
def isBreak (c : Char) : Bool := c = '\n' || c = '\u2028' || c = '\u2029'

def isSpace (c : Char) : Bool := isBlank c || isBreak c

/-- Whether a blank, a line break or the end of the text comes next. -/
def endsWord (text : List Char) : Bool := text.head?.all isSpace

/-- Whether a line break or the end of the text comes next. -/
def endsLine (text : List Char) : Bool := text.head?.all isBreak

/-- Passes over the blanks and the comment at the end of a line. -/
def skipComment (text : List Char) : List Char :=
  let rest := text.dropWhile isBlank
  if rest.head? = some '#' then rest.dropWhile (!isBreak ·) else rest

/-- Three times the same sign as a word, which begins or ends a document. -/
def isMarker (sign : Char) (line : List Char) : Bool :=
  line.take 3 = [sign, sign, sign] && endsWord (line.drop 3)

def dividesDocuments (line : List Char) : Bool := isMarker '-' line || isMarker '.' line

def columnBehind (passed : List Char) : Nat := (passed.reverse.takeWhile (!isBreak ·)).length

structure Place where
  rest : List Char
  line : Nat := 0
  column : Nat := 0

namespace Place

def pass (p : Place) (n : Nat) : Place :=
  let passed := p.rest.take n
  { rest := p.rest.drop n
    line := p.line + passed.countP isBreak
    column := if passed.any isBreak then columnBehind passed else p.column + passed.length }

@[simp] theorem pass_zero (p : Place) : p.pass 0 = p := by simp [pass]

/-- The place where the given end of the text begins. -/
def upTo (p : Place) (rest : List Char) : Place := p.pass (p.rest.length - rest.length)

end Place

end RecordQuery.Yaml
