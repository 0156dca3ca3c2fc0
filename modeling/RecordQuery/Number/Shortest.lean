import RecordQuery.Number.Binary64
import RecordQuery.Text.Digits

/-!
# Shortest decimals

The fewest decimal digits that read back as a given floating-point number. The grids of one, two,
… seventeen digits are tried in turn; on the first grid where one of the two neighbours of the
number reads back, the nearer such neighbour is taken. Which of two equally near ones it is, the
format decides.
-/
namespace RecordQuery

/-- The number `digits * 10 ^ exponent`. -/
structure Decimal where
  digits : Nat
  exponent : Int
  deriving DecidableEq, Repr

namespace Decimal

def nearest (d : Decimal) (negative : Bool) : Binary64 :=
  if 0 ≤ d.exponent then .ofRatio negative (d.digits * Nat.pow 10 d.exponent.toNat) 1
  else .ofRatio negative d.digits (Nat.pow 10 (-d.exponent).toNat)

/-- The same number without trailing zeros among its digits. -/
def trim : Nat → Decimal → Decimal
  | 0, d => d
  | fuel + 1, d =>
    if d.digits ≠ 0 ∧ d.digits % 10 = 0 then trim fuel ⟨d.digits / 10, d.exponent + 1⟩ else d

end Decimal

/-- Where a number halfway between two decimals goes. -/
inductive Tie where
  | up
  /-- To the decimal whose last digit is even. -/
  | even
  deriving DecidableEq, Repr

/-- Whether a number is rounded up that lies `rest` of `step` units above the decimal with the
given digits. -/
def Tie.roundsUp (tie : Tie) (digits rest step : Nat) : Bool :=
  if step < 2 * rest then true
  else if 2 * rest < step then false
  else tie = .up || digits % 2 = 1

namespace Binary64

/-- A finite number is this many units of `10 ^ -1074`. -/
def decimalUnits (x : Binary64) : Nat := x.units * Nat.pow 5 1074

/-- Of the two neighbours of a number on the grid of step `10 ^ drop` decimal units, the nearer
one of those that read back. -/
def onGrid? (x : Binary64) (tie : Tie) (drop : Nat) : Option Decimal :=
  let n := x.decimalUnits
  let step := Nat.pow 10 drop
  let below : Decimal := ⟨n / step, (drop : Int) - 1074⟩
  let above : Decimal := ⟨n / step + 1, (drop : Int) - 1074⟩
  let readsBack (d : Decimal) : Bool := d.nearest x.negative = x
  let above? := if readsBack above then some above else none
  if readsBack below then
    if tie.roundsUp below.digits (n % step) step then above?.orElse fun _ => some below
    else some below
  else above?

def searchGrid (x : Binary64) (tie : Tie) (length : Nat) : Nat → Nat → Option Decimal
  | _, 0 => none
  | count, fuel + 1 =>
    match x.onGrid? tie (length - count) with
    | some d => some d
    | none => searchGrid x tie length (count + 1) fuel

/-- The shortest decimal that reads back as a finite number, its sign left out. -/
def shortest (x : Binary64) (tie : Tie) : Decimal :=
  let length := (Text.Digits.ofNat x.decimalUnits).length
  match x.searchGrid tie length 1 17 with
  | some d => d.trim 17
  | none => ⟨x.decimalUnits, -1074⟩

end Binary64

end RecordQuery
