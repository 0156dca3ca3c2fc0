/-!
# Binary floating point

A sixty-four bit floating-point number is its sign and its magnitude, the other sixty-three bits
read as a number. Numbers of one sign are ordered as their magnitudes, and one step of the
magnitude is the next representable number, so rounding and comparison are integer arithmetic.
Finite magnitudes denote whole multiples of `2 ^ -1074`.
-/
namespace RecordQuery

structure Binary64 where
  negative : Bool
  magnitude : Fin 0x8000000000000000
  deriving DecidableEq, Repr, Inhabited

namespace Binary64

/-- The number of magnitudes that share one exponent, `2 ^ 52`. -/
def binadeSize : Nat := 0x10000000000000

/-- The magnitude of the infinities; greater magnitudes stand for no number. -/
def infiniteMagnitude : Nat := 2047 * binadeSize

def isNaN (x : Binary64) : Bool := infiniteMagnitude < x.magnitude.val

def isInfinite (x : Binary64) : Bool := x.magnitude.val = infiniteMagnitude

def isFinite (x : Binary64) : Bool := x.magnitude.val < infiniteMagnitude

def zero : Binary64 := ⟨false, ⟨0, by decide⟩⟩

def nan : Binary64 := ⟨false, ⟨infiniteMagnitude + binadeSize / 2, by decide⟩⟩

def infinity (negative : Bool) : Binary64 := ⟨negative, ⟨infiniteMagnitude, by decide⟩⟩

def neg (x : Binary64) : Binary64 := { x with negative := !x.negative }

def isZero (x : Binary64) : Bool := x.magnitude.val = 0

def unitsPerOne : Nat := Nat.pow 2 1074

/-- How many units of `2 ^ -1074` a finite magnitude stands for. -/
def unitsOf (magnitude : Nat) : Nat :=
  if magnitude < binadeSize then magnitude
  else (binadeSize + magnitude % binadeSize) * Nat.pow 2 (magnitude / binadeSize - 1)

def units (x : Binary64) : Nat := unitsOf x.magnitude.val

/-- The quotient rounded to the nearest whole number, a half to the even one. -/
def roundHalfEven (num den : Nat) : Nat :=
  let q := num / den
  let r := num % den
  if 2 * r < den then q else if den < 2 * r then q + 1 else q + q % 2

/-- The magnitude nearest to `num / den` units; a tie goes to the even one, and what is out of
range goes to infinity. -/
def nearestMagnitude (num den : Nat) : Nat :=
  let shift := (num / den).log2 - 52
  min infiniteMagnitude (shift * binadeSize + roundHalfEven num (den * Nat.pow 2 shift))

theorem nearestMagnitude_lt (num den : Nat) : nearestMagnitude num den < 0x8000000000000000 :=
  Nat.lt_of_le_of_lt (Nat.min_le_left _ _) (by decide)

def ofUnits (negative : Bool) (num den : Nat) : Binary64 :=
  ⟨negative, nearestMagnitude num den, nearestMagnitude_lt num den⟩

def ofRatio (negative : Bool) (num den : Nat) : Binary64 :=
  ofUnits negative (num * unitsPerOne) den

def ofInt (i : Int) : Binary64 := ofRatio (i < 0) i.natAbs 1

/-- The product of two finite numbers, correctly rounded. -/
def mul (x y : Binary64) : Binary64 :=
  ofUnits (x.negative != y.negative) (x.units * y.units) unitsPerOne

/-- The quotient of two finite numbers, the second not zero, correctly rounded. -/
def div (x y : Binary64) : Binary64 :=
  ofUnits (x.negative != y.negative) (x.units * unitsPerOne) y.units

/-- The place of a number in the order of all numbers; both zeros have place zero. -/
def place (x : Binary64) : Int :=
  if x.negative then -(x.magnitude.val : Int) else x.magnitude.val

/-- No answer when one side is no number. -/
def compare? (x y : Binary64) : Option Ordering :=
  if x.isNaN || y.isNaN then none else some (compare x.place y.place)

/-- Equality of values: the two zeros are equal, and what is no number equals nothing. -/
def same (x y : Binary64) : Bool := x.compare? y == some .eq

theorem compare?_eq_none_iff (x y : Binary64) :
    x.compare? y = none ↔ x.isNaN = true ∨ y.isNaN = true := by
  unfold compare?
  split <;> simp_all

def isWhole (x : Binary64) : Bool := x.units % unitsPerOne = 0

end Binary64

end RecordQuery
