import RecordQuery.Number.Shortest

/-!
# Texts of numbers

Three spellings of a floating-point number: positional, as a constant of a filter clause, and as
a JSON number; and the readers of decimal notation.
-/
namespace RecordQuery

namespace Decimal

/-- Positional notation with exactly the digits of the number, zeros filled up to the point. -/
def positional (d : Decimal) : List Char :=
  let digits := Text.Digits.ofNat d.digits
  if 0 ≤ d.exponent then
    if d.digits = 0 then digits else digits ++ List.replicate d.exponent.toNat '0'
  else
    let places := (-d.exponent).toNat
    if places < digits.length then
      digits.take (digits.length - places) ++ '.' :: digits.drop (digits.length - places)
    else '0' :: '.' :: (List.replicate (places - digits.length) '0' ++ digits)

/-- An exponent with its sign, in as few digits as it needs. -/
def exponentText (e : Int) : List Char :=
  'e' :: (if e < 0 then '-' else '+') :: Text.Digits.ofNat e.natAbs

/-- Scientific notation: one digit, a point only if more follow, and the exponent. -/
def scientific (d : Decimal) : List Char :=
  let digits := Text.Digits.ofNat d.digits
  let fraction := digits.drop 1
  digits.take 1 ++ (if fraction.isEmpty then [] else '.' :: fraction) ++
    exponentText (d.exponent + (digits.length - 1 : Nat))

end Decimal

namespace Binary64

def signed (x : Binary64) (text : List Char) : List Char :=
  if x.negative then '-' :: text else text

/-- Positional notation with the fewest digits; a tie goes up. -/
def positional (x : Binary64) : List Char :=
  x.signed (if x.isZero then ['0'] else (x.shortest .up).positional)

/-- The spelling in a filter clause: a whole number below `10 ^ 15` keeps one decimal place, any
other number is written positionally with the fewest digits. -/
def clauseText (x : Binary64) : List Char :=
  if x.isNaN then "NaN".toList
  else if x.isInfinite then if x.negative then "-INF".toList else "INF".toList
  else if x.isWhole && x.units < 1000000000000000 * unitsPerOne then x.positional ++ ['.', '0']
  else x.positional

/-- The spelling in JSON text, in which a tie goes to the even digit: positional from `10 ^ -5` up
to `10 ^ 16`, scientific outside; what is not finite has none. -/
def jsonText? (x : Binary64) : Option (List Char) :=
  if !x.isFinite then none
  else if x.isZero then some (x.signed "0.0".toList)
  else
    let d := x.shortest .even
    let point := d.exponent + (Text.Digits.ofNat d.digits).length
    some <| x.signed <|
      if 0 ≤ d.exponent ∧ point ≤ 16 then d.positional ++ ['.', '0']
      else if -5 < point ∧ point ≤ 16 then d.positional
      else d.scientific

end Binary64

structure Numeral where
  negative : Bool
  whole : List Char
  fraction : Option (List Char)
  exponent : Option (Bool × List Char)
  deriving DecidableEq, Repr

namespace Numeral

/-- The power of ten written after the mark of the exponent. -/
def exponentValue (n : Numeral) : Int :=
  match n.exponent with
  | none => 0
  | some (negative, digits) =>
    let e : Int := Text.Digits.value digits
    if negative then -e else e

/-- An optional sign and digits after the mark `e` or `E`. -/
def readExponent? (text : List Char) : Option (Option (Bool × List Char)) :=
  match text with
  | [] => some none
  | c :: rest =>
    if c = 'e' ∨ c = 'E' then
      let (negative, digits) := match rest with
        | '-' :: ds => (true, ds)
        | '+' :: ds => (false, ds)
        | ds => (false, ds)
      if digits.isEmpty || !digits.all Char.isDigit then none else some (some (negative, digits))
    else none

/-- Reads a sign, a run of digits, an optional fraction and an optional exponent, and nothing
after them. Which of the parts may be empty is left to the reader of the format. -/
def split? (negative : Bool) (text : List Char) : Option Numeral :=
  let (whole, rest) := Text.Digits.span text
  match rest with
  | '.' :: rest =>
    let (fraction, rest) := Text.Digits.span rest
    (readExponent? rest).map fun e => ⟨negative, whole, some fraction, e⟩
  | rest => (readExponent? rest).map fun e => ⟨negative, whole, none, e⟩

/-- The nearest floating-point number. Exponents far out of range are decided without computing
the power. -/
def nearest (n : Numeral) : Binary64 :=
  let fraction := n.fraction.getD []
  let digits := Text.Digits.value (n.whole ++ fraction)
  let exponent := n.exponentValue - fraction.length
  let point := exponent + (Text.Digits.ofNat digits).length
  if digits = 0 || point < -400 then ⟨n.negative, 0⟩
  else if 400 < point then .infinity n.negative
  else (⟨digits, exponent⟩ : Decimal).nearest n.negative

end Numeral

namespace Binary64

/-- A decimal numeral with an optional sign, or one of the words for infinity and for no number,
in letters of either case. -/
def read? (text : List Char) : Option Binary64 :=
  let (negative, body) := match text with
    | '-' :: rest => (true, rest)
    | '+' :: rest => (false, rest)
    | rest => (false, rest)
  let word := body.map Char.toLower
  if word = "nan".toList then some { nan with negative }
  else if word = "inf".toList ∨ word = "infinity".toList then some (infinity negative)
  else
    match Numeral.split? negative body with
    | none => none
    | some n => if n.whole.isEmpty && (n.fraction.getD []).isEmpty then none else some n.nearest

end Binary64

end RecordQuery
