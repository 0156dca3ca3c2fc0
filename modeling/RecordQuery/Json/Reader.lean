import RecordQuery.Json.Syntax
import RecordQuery.Json.Value

/-!
# Reading JSON values

A tree of JSON syntax is decoded into a value. Decoding refuses strings that are no Unicode text,
numbers out of range and trees more than `maxDepth` levels deep.
-/
namespace RecordQuery.Json

open Syntax (Piece Tree)

def maxDepth : Nat := 127

/-- The text of a string; a surrogate counts only as half of a pair. -/
def decodePieces? : List Piece → Option (List Char)
  | [] => some []
  | .char none :: _ => none
  | .char (some c) :: rest => (decodePieces? rest).map (c :: ·)
  | .unit high :: .unit low :: rest =>
    if 0xD800 ≤ high ∧ high < 0xDC00 then
      if 0xDC00 ≤ low ∧ low < 0xE000 then
        (decodePieces? rest).map
          (Char.ofNat (0x10000 + (high - 0xD800) * 0x400 + (low - 0xDC00)) :: ·)
      else none
    else if 0xDC00 ≤ high ∧ high < 0xE000 then none
    else (decodePieces? (.unit low :: rest)).map (Char.ofNat high :: ·)
  | .unit code :: rest =>
    if 0xD800 ≤ code ∧ code < 0xE000 then none
    else (decodePieces? rest).map (Char.ofNat code :: ·)

/-- Adds digits to a significand as long as it fits into sixty-four bits; gives the significand
and the number of digits taken. -/
def takeDigits (significand taken : Nat) : List Char → Nat × Nat
  | [] => (significand, taken)
  | c :: rest =>
    let next := 10 * significand + Text.Digits.digitValue c
    if 0x10000000000000000 ≤ next then (significand, taken) else takeDigits next (taken + 1) rest

/-- Divides by `10 ^ places`, in steps of at most `10 ^ 308`, rounding after every step. -/
def divideByPower (x : Binary64) (places : Nat) : Binary64 :=
  if places ≤ 308 then x.div (.ofRatio false (Nat.pow 10 places) 1)
  else if x.isZero then x
  else divideByPower (x.div (.ofRatio false (Nat.pow 10 308) 1)) (places - 308)
termination_by places

/-- A significand times a power of ten: the significand is rounded first, and the scaling after
it. A number too large is refused. -/
def scaled? (significand : Nat) (exponent : Int) : Option Binary64 :=
  let x := Binary64.ofRatio false significand 1
  if exponent < 0 then some (divideByPower x (-exponent).toNat)
  else if x.isZero then some x
  else if 308 < exponent then none
  else
    let y := x.mul (.ofRatio false (Nat.pow 10 exponent.toNat) 1)
    if y.isFinite then some y else none

/-- The largest exponent that is computed with. -/
def maxExponent : Nat := 0x7FFFFFFF

def decodeReal? (n : Numeral) : Option Binary64 :=
  let (s, wholeTaken) := takeDigits 0 0 n.whole
  let (s, fractionTaken) := takeDigits s 0 (n.fraction.getD [])
  let point : Int := (n.whole.length - wholeTaken : Nat) - (fractionTaken : Int)
  let e := n.exponentValue
  let size :=
    if maxExponent < e.natAbs then if s ≠ 0 ∧ 0 < e then none else some Binary64.zero
    else scaled? s (point + e)
  size.map fun x => { x with negative := n.negative }

/-- A numeral without fraction and exponent is an integer if sixty-four bits hold it; minus zero
is a floating-point number. -/
def decodeNumber? (n : Numeral) : Option Number :=
  let size := Text.Digits.value n.whole
  if n.fraction.isNone && n.exponent.isNone && size < 0x10000000000000000 then
    if !n.negative then some (.integer size)
    else if size = 0 || 0x8000000000000000 < size then some (.real (Binary64.ofRatio true size 1))
    else some (.integer (-size))
  else (decodeReal? n).map .real

mutual

def decode? (depth : Nat) : Tree → Option Json
  | .null => some .null
  | .boolean b => some (.boolean b)
  | .number n => (decodeNumber? n).map .number
  | .string pieces => (decodePieces? pieces).map fun s => .string (String.ofList s)
  | .array items =>
    if depth = 0 then none else (decodeItems? (depth - 1) items).map .array
  | .object members =>
    if depth = 0 then none else (decodeMembers? (depth - 1) members).map ofMembers

def decodeItems? (depth : Nat) : List Tree → Option (List Json)
  | [] => some []
  | t :: rest => do return (← decode? depth t) :: (← decodeItems? depth rest)

def decodeMembers? (depth : Nat) : List (List Piece × Tree) → Option (List (String × Json))
  | [] => some []
  | (name, t) :: rest => do
    let name ← decodePieces? name
    return (String.ofList name, ← decode? depth t) :: (← decodeMembers? depth rest)

end

/-- The value of a text in which characters may be missing. -/
def parseChars? (text : List (Option Char)) : Option Json := do
  decode? maxDepth (← Syntax.parse? text)

def parse? (text : String) : Option Json := parseChars? (text.toList.map some)

def parseBytes? (bytes : List UInt8) : Option Json := parseChars? (Text.Utf8.decode bytes)

end RecordQuery.Json
