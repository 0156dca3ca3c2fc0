import RecordQuery.Text.Digits

/-!
# Tables of characters

Tables are kept as text: words with blanks between them, each a code point or a range of them in
hexadecimal digits, such as `E0=61.300` or `1D7CE-1D7D7=30`. Behind the equals sign stand the
numbers that belong to it.
-/
namespace RecordQuery.Text

/-- A range of code points, and the numbers that belong to it. -/
structure TableEntry where
  first : Nat
  last : Nat
  image : List Nat
  deriving DecidableEq, Repr

abbrev Table := List TableEntry

/-- What stands before the first of the given signs, and behind it. -/
def splitFirst (sign : Char) (text : List Char) : List Char × List Char :=
  (text.takeWhile (· ≠ sign), (text.dropWhile (· ≠ sign)).drop 1)

def TableEntry.ofWord? (word : List Char) : Option TableEntry := do
  let (range, image) := splitFirst '=' word
  let (first, last) := splitFirst '-' range
  let first ← Digits.inRadix? 16 first
  let last ← if last.isEmpty then some first else Digits.inRadix? 16 last
  let image ← if image.isEmpty then some [] else (image.splitOn '.').mapM (Digits.inRadix? 16)
  return ⟨first, last, image⟩

namespace Table

def ofText (text : String) : Table :=
  ((text.toList.splitOnP Char.isWhitespace).filter (!·.isEmpty)).filterMap TableEntry.ofWord?

def find? (t : Table) (c : Char) : Option TableEntry :=
  List.find? (fun e => e.first ≤ c.toNat && c.toNat ≤ e.last) t

def has (t : Table) (c : Char) : Bool := (t.find? c).isSome

/-- The characters that belong to a character; those of a range rise with it. -/
def image? (t : Table) (c : Char) : Option (List Char) :=
  (t.find? c).map fun e => e.image.map fun n => Char.ofNat (n + (c.toNat - e.first))

/-- The number that belongs to all characters of a range. -/
def value (t : Table) (c : Char) : Nat := ((t.find? c).bind (·.image.head?)).getD 0

/-- The character whose image is the given one. -/
def ofImage? (t : Table) (image : List Char) : Option Char :=
  (List.find? (fun e => e.image = image.map Char.toNat) t).map fun e => Char.ofNat e.first

end Table

end RecordQuery.Text
