import RecordQuery.Json.Value
import RecordQuery.Number.Notation

/-!
# Writing JSON text

`compact` writes a value without blanks, `pretty` with two blanks of indentation to a level.
-/
namespace RecordQuery.Json

def hexDigits (n : Nat) : List Char := [Nat.digitChar (n / 16), Nat.digitChar (n % 16)]

/-- Only quotes, backslashes and control characters are escaped. -/
def escapeChar (c : Char) : List Char :=
  if c = '"' then ['\\', '"']
  else if c = '\\' then ['\\', '\\']
  else if c = '\x08' then ['\\', 'b']
  else if c = '\x0c' then ['\\', 'f']
  else if c = '\n' then ['\\', 'n']
  else if c = '\r' then ['\\', 'r']
  else if c = '\t' then ['\\', 't']
  else if c.toNat < 0x20 then ['\\', 'u', '0', '0'] ++ hexDigits c.toNat
  else [c]

def stringText (s : String) : List Char := '"' :: (s.toList.flatMap escapeChar ++ ['"'])

/-- A number that is not finite has no text and is written as null. -/
def numberText : Number → List Char
  | .integer i => Text.Digits.ofInt i
  | .real x => x.jsonText?.getD "null".toList

def bracketed (left right : Char) (parts : List (List Char)) : List Char :=
  left :: ((parts.intersperse [',']).flatten ++ [right])

mutual

def compactChars : Json → List Char
  | .null => "null".toList
  | .boolean b => if b then "true".toList else "false".toList
  | .number n => numberText n
  | .string s => stringText s
  | .array items => bracketed '[' ']' (compactItems items)
  | .object members => bracketed '\x7b' '\x7d' (compactMembers members)

def compactItems : List Json → List (List Char)
  | [] => []
  | j :: rest => compactChars j :: compactItems rest

def compactMembers : List (String × Json) → List (List Char)
  | [] => []
  | (name, j) :: rest => (stringText name ++ ':' :: compactChars j) :: compactMembers rest

end

def compact (j : Json) : String := String.ofList j.compactChars

def lineBreak (level : Nat) : List Char := '\n' :: List.replicate (2 * level) ' '

/-- Every part on a line of its own; without parts the brackets stay together. -/
def indented (left right : Char) (level : Nat) (parts : List (List Char)) : List Char :=
  if parts.isEmpty then [left, right]
  else left :: (((parts.map (lineBreak (level + 1) ++ ·)).intersperse [',']).flatten ++
    lineBreak level ++ [right])

mutual

def prettyChars (level : Nat) : Json → List Char
  | .array items => indented '[' ']' level (prettyItems (level + 1) items)
  | .object members => indented '\x7b' '\x7d' level (prettyMembers (level + 1) members)
  | j => compactChars j

def prettyItems (level : Nat) : List Json → List (List Char)
  | [] => []
  | j :: rest => prettyChars level j :: prettyItems level rest

def prettyMembers (level : Nat) : List (String × Json) → List (List Char)
  | [] => []
  | (name, j) :: rest =>
    (stringText name ++ [':', ' '] ++ prettyChars level j) :: prettyMembers level rest

end

def pretty (j : Json) : String := String.ofList (j.prettyChars 0)

end RecordQuery.Json
