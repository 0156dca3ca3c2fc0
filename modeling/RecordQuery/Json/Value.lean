import RecordQuery.Number.Binary64

/-!
# JSON values

Whole numbers stay exact and apart from floating-point numbers. The members of an object are
kept in the order of their names, one value to a name.
-/
namespace RecordQuery

inductive Number where
  | integer (value : Int)
  | real (value : Binary64)
  deriving DecidableEq, Repr

namespace Number

/-- The largest and smallest integers that fit into sixty-four bits with a sign. -/
def maxSigned : Int := 0x7FFFFFFFFFFFFFFF

def minSigned : Int := -0x8000000000000000

def maxUnsigned : Int := 0xFFFFFFFFFFFFFFFF

def toReal : Number → Binary64
  | .integer i => .ofInt i
  | .real x => x

/-- Equality of kind and value: an integer and a floating-point number differ. -/
def same : Number → Number → Bool
  | .integer i, .integer j => i = j
  | .real x, .real y => x.same y
  | _, _ => false

end Number

inductive Json where
  | null
  | boolean (value : Bool)
  | number (value : Number)
  | string (value : String)
  | array (items : List Json)
  | object (members : List (String × Json))
  deriving Repr, Inhabited

namespace Json

/-- Puts a member in its place; a member of the same name is replaced. -/
def insertMember (name : String) (value : Json) : List (String × Json) → List (String × Json)
  | [] => [(name, value)]
  | (n, v) :: rest =>
    if name < n then (name, value) :: (n, v) :: rest
    else if name = n then (name, value) :: rest
    else (n, v) :: insertMember name value rest

/-- An object from members in any order; of two with one name the later counts. -/
def ofMembers (members : List (String × Json)) : Json :=
  .object (members.foldl (fun ms m => insertMember m.1 m.2 ms) [])

def member? (name : String) : Json → Option Json
  | .object members => members.lookup name
  | _ => none

mutual

/-- Deep equality; an integer never equals a floating-point number. -/
def same : Json → Json → Bool
  | .null, .null => true
  | .boolean a, .boolean b => a = b
  | .number m, .number n => m.same n
  | .string s, .string t => s = t
  | .array xs, .array ys => sameItems xs ys
  | .object xs, .object ys => sameMembers xs ys
  | _, _ => false

def sameItems : List Json → List Json → Bool
  | [], [] => true
  | x :: xs, y :: ys => same x y && sameItems xs ys
  | _, _ => false

def sameMembers : List (String × Json) → List (String × Json) → Bool
  | [], [] => true
  | (m, x) :: xs, (n, y) :: ys => m = n && same x y && sameMembers xs ys
  | _, _ => false

end

def ofInt (i : Int) : Json := .number (.integer i)

def ofNat (n : Nat) : Json := .number (.integer n)

def ofOption {α : Type} (f : α → Json) : Option α → Json
  | none => .null
  | some a => f a

def toString? : Json → Option String
  | .string s => some s
  | _ => none

def toBool? : Json → Option Bool
  | .boolean b => some b
  | _ => none

/-- An integer within the given bounds. -/
def toIntWithin? (low high : Int) : Json → Option Int
  | .number (.integer i) => if low ≤ i ∧ i ≤ high then some i else none
  | _ => none

/-- A natural number below `2 ^ bits`. -/
def toNatBelow? (bits : Nat) (j : Json) : Option Nat :=
  (j.toIntWithin? 0 (Nat.pow 2 bits - 1)).map Int.toNat

def toReal? : Json → Option Binary64
  | .number n => some n.toReal
  | _ => none

def toArray? : Json → Option (List Json)
  | .array items => some items
  | _ => none

end Json

end RecordQuery
