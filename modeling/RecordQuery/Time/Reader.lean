import RecordQuery.Time.Instant

/-!
# Reading dates and instants

Two readers of timestamps. `readRelaxed?` serves literals: it allows blanks, short fields, signed
years and several spellings of UTC. `readStrict?` serves the strings of records: RFC 3339 and
nothing else.
-/
namespace RecordQuery.Time

open Text (Digits.value)

/-- The characters with the Unicode property White_Space. -/
def isBlank (c : Char) : Bool :=
  let n := c.toNat
  (0x09 ≤ n && n ≤ 0x0D) || n = 0x20 || n = 0x85 || n = 0xA0 || n = 0x1680 ||
    (0x2000 ≤ n && n ≤ 0x200A) || n = 0x2028 || n = 0x2029 || n = 0x202F || n = 0x205F ||
    n = 0x3000

def trimStart (text : List Char) : List Char := text.dropWhile isBlank

def digits? (least most : Nat) (text : List Char) : Option (Nat × List Char) :=
  let ds := (text.take most).takeWhile Char.isDigit
  if ds.length < least then none else some (Digits.value ds, text.drop ds.length)

def expect? (c : Char) : List Char → Option (List Char)
  | x :: rest => if x = c then some rest else none
  | [] => none

def shortField? (text : List Char) : Option (Nat × List Char) :=
  digits? 1 2 (trimStart text)

/-- Blanks and a year of at most four digits, or a sign and any number of digits. -/
def yearField? (text : List Char) : Option (Int × List Char) :=
  match trimStart text with
  | '-' :: rest => (digits? 1 rest.length rest).map fun r => (-(r.1 : Int), r.2)
  | '+' :: rest => (digits? 1 rest.length rest).map fun r => ((r.1 : Int), r.2)
  | rest => (digits? 1 4 rest).map fun r => ((r.1 : Int), r.2)

/-- Year, month and day with hyphens between them. -/
def dateFields? (text : List Char) : Option (Date × List Char) := do
  let (year, rest) ← yearField? text
  let (month, rest) ← shortField? (← expect? '-' (trimStart rest))
  let (day, rest) ← shortField? (← expect? '-' (trimStart rest))
  return (← Date.of? year month day, rest)

/-- A date alone, such as `2024-02-29`. -/
def readDate? (text : List Char) : Option Date := do
  let (date, rest) ← dateFields? text
  if (trimStart rest).isEmpty then some date else none

/-- A point and digits after the seconds; digits past the ninth are dropped. -/
def fraction? (text : List Char) : Option (Nat × List Char) :=
  match text with
  | '.' :: rest =>
    let ds := rest.takeWhile Char.isDigit
    let kept := ds.take 9
    if ds.isEmpty then none
    else some (Digits.value kept * Nat.pow 10 (9 - kept.length), rest.dropWhile Char.isDigit)
  | _ => some (0, text)

/-- The second of the day and the nanosecond shown by a clock; second sixty is a leap second. -/
def clock? (hour minute second fraction : Nat) : Option (Nat × Nat) :=
  if 23 < hour ∨ 59 < minute ∨ 60 < second then none
  else
    let base := hour * 3600 + minute * 60
    if second = 60 then some (base + 59, 1000000000 + fraction)
    else some (base + second, fraction)

/-- A sign, two digits of hours, a separator and two digits of minutes. -/
def signedOffset? (separator : List Char → Option (List Char)) (text : List Char) :
    Option (Int × List Char) := do
  let (negative, rest) ← match text with
    | '+' :: rest => some (false, rest)
    | '-' :: rest => some (true, rest)
    | '\u2212' :: rest => some (true, rest)
    | _ => none
  let (hours, rest) ← digits? 2 2 rest
  let (minutes, rest) ← digits? 2 2 (← separator rest)
  let offset : Int := hours * 60 + minutes
  if 59 < minutes ∨ 1440 ≤ offset then none
  else return (if negative then -offset else offset, rest)

def offset? (separator : List Char → Option (List Char)) (text : List Char) :
    Option (Int × List Char) :=
  match text with
  | 'Z' :: rest | 'z' :: rest => some (0, rest)
  | _ => signedOffset? separator text

def relaxedOffset? (text : List Char) : Option (Int × List Char) :=
  if (text.take 3).map Char.toLower = ['u', 't', 'c'] then some (0, text.drop 3)
  else offset? (fun s => some (s.dropWhile fun c => c = ':' || isBlank c)) text

/-- One letter or one space between date and time. -/
def timeMark? : List Char → Option (List Char)
  | 'T' :: rest | 't' :: rest | ' ' :: rest => some rest
  | _ => none

namespace Instant

def readRelaxed? (text : List Char) : Option Instant := do
  let (date, rest) ← dateFields? text
  let (hour, rest) ← shortField? (← timeMark? rest)
  let (minute, rest) ← shortField? (← expect? ':' (trimStart rest))
  let (second, rest) ← shortField? (← expect? ':' (trimStart rest))
  let (fraction, rest) ← fraction? rest
  let (offset, rest) ← relaxedOffset? (trimStart rest)
  let (second, nanosecond) ← clock? hour minute second fraction
  if (trimStart rest).isEmpty then ofLocal? date second nanosecond offset else none

def readStrict? (text : List Char) : Option Instant := do
  let (year, rest) ← digits? 4 4 text
  let (month, rest) ← digits? 2 2 (← expect? '-' rest)
  let (day, rest) ← digits? 2 2 (← expect? '-' rest)
  let (hour, rest) ← digits? 2 2 (← timeMark? rest)
  let (minute, rest) ← digits? 2 2 (← expect? ':' rest)
  let (second, rest) ← digits? 2 2 (← expect? ':' rest)
  let (fraction, rest) ← fraction? rest
  let (offset, rest) ← offset? (expect? ':') rest
  let (second, nanosecond) ← clock? hour minute second fraction
  if rest.isEmpty then
    ofLocal? (← Date.of? year month day) second nanosecond offset
  else none

end Instant

end RecordQuery.Time
