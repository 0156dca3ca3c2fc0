import RecordQuery.Json.Value
import RecordQuery.Predicate.Basic
import RecordQuery.Time.Reader

/-!
# Comparing values

What the two sides of a comparison are, when they are equal, and how they are ordered. Null is
smaller than anything else, and values of kinds that do not go together have no order.
-/
namespace RecordQuery

inductive Operand where
  | record (value : Json)
  | constant (value : Literal)
  /-- A member that the record does not have. -/
  | missing

/-- The value of an operand as a comparison sees it. -/
inductive Scalar where
  | null
  | boolean (value : Bool)
  | integer (value : Int)
  | real (value : Binary64)
  | string (value : String)
  | instant (value : Time.Instant)
  /-- The label of an enumeration member; its type plays no part. -/
  | label (value : String)
  | structured (value : Json)

/-- An integer that needs more than sixty-four bits with a sign counts as a real number. -/
def Number.scalar : Number → Scalar
  | .integer i =>
    if Number.minSigned ≤ i ∧ i ≤ Number.maxSigned then .integer i else .real (.ofInt i)
  | .real x => .real x

namespace Operand

def scalar : Operand → Scalar
  | .missing | .record .null | .constant .null => .null
  | .record (.boolean b) | .constant (.boolean b) => .boolean b
  | .record (.number n) => n.scalar
  | .record (.string s) | .constant (.string s) => .string s
  | .record (.array items) => .structured (.array items)
  | .record (.object members) => .structured (.object members)
  | .constant (.integer i) => .integer i
  | .constant (.real x) => .real x
  | .constant (.instant t) => .instant t
  | .constant (.member _ label) => .label label

end Operand

namespace Scalar

def readTime? (s : String) : Option Time.Instant := Time.Instant.readStrict? s.toList

/-- The order of two values that are neither null nor structured. -/
def order? (style : BooleanStyle) : Scalar → Scalar → Option Ordering
  | .integer i, .integer j => some (compare i j)
  | .integer i, .real y => Binary64.compare? (.ofInt i) y
  | .real x, .integer j => x.compare? (.ofInt j)
  | .real x, .real y => x.compare? y
  | .string s, .string t => some (compare s t)
  | .boolean a, .boolean b => some (compare a b)
  | .boolean a, .string s => (style.readLabel? s).map (compare a)
  | .string s, .boolean b => (style.readLabel? s).map (compare · b)
  | .instant t, .instant u => some (t.compare u)
  | .instant t, .string s => (readTime? s).map t.compare
  | .string s, .instant u => (readTime? s).map (·.compare u)
  | .label a, .string b | .label a, .label b | .string a, .label b => some (compare a b)
  | _, _ => none

end Scalar

namespace Operand

/-- Two structured values of records are compared deeply; a structured value equals nothing
else, and null equals only null. -/
def equal (style : BooleanStyle) (a b : Operand) : Bool :=
  match a.scalar, b.scalar with
  | .null, .null => true
  | .null, _ | _, .null => false
  | .structured x, .structured y => x.same y
  | .structured _, _ | _, .structured _ => false
  | x, y => x.order? style y == some .eq

def order? (style : BooleanStyle) (a b : Operand) : Option Ordering :=
  match a.scalar, b.scalar with
  | .null, .null => some .eq
  | .null, _ => some .lt
  | _, .null => some .gt
  | .structured _, _ | _, .structured _ => none
  | x, y => x.order? style y

/-- The outcome of a comparison; a pair without order is neither greater nor smaller. -/
def compare (style : BooleanStyle) (op : Comparison) (a b : Operand) : Bool :=
  match op with
  | .eq => equal style a b
  | .ne => !equal style a b
  | .gt => order? style a b == some .gt
  | .ge => order? style a b == some .gt || order? style a b == some .eq
  | .lt => order? style a b == some .lt
  | .le => order? style a b == some .lt || order? style a b == some .eq

end Operand

end RecordQuery
