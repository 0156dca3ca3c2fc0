import RecordQuery.Number.Binary64
import RecordQuery.Predicate.Path
import RecordQuery.Time.Instant

/-!
# Predicates

The conditions on records that are both sent to a service as a filter clause and evaluated on
records at hand. Calls are not restricted to well-formed arguments here: what a call accepts is
decided where it is rendered or evaluated.
-/
namespace RecordQuery

/-! ## Constants -/

inductive Literal where
  | string (value : String)
  | integer (value : Int)
  | real (value : Binary64)
  | boolean (value : Bool)
  | instant (value : Time.Instant)
  | null
  /-- A member of an enumeration, by its type and its label. -/
  | member (typeName label : String)
  deriving DecidableEq

namespace Literal

/-- Equality of kind and value: zeros of either sign are equal, and what is no number differs
from itself. -/
def same : Literal → Literal → Bool
  | .real x, .real y => x.same y
  | a, b => a = b

def toBool? : Literal → Option Bool
  | .boolean b => some b
  | _ => none

def isNull : Literal → Bool
  | .null => true
  | _ => false

/-- The midnight at which a day begins in UTC. -/
def ofDate (date : Time.Date) : Literal := .instant (.midnight date)

end Literal

/-- How a service writes booleans: bare, or as two members of an enumeration. The style belongs to
the service and not to a predicate. -/
inductive BooleanStyle where
  | native
  | labels (typeName trueLabel falseLabel : String)
  deriving DecidableEq, Repr, Inhabited

namespace BooleanStyle

/-- The enumeration of yes and no that data entities use. -/
def noYes : BooleanStyle := .labels "Microsoft.Dynamics.DataEntities.NoYes" "Yes" "No"

/-- The boolean a label of a record stands for; the label for true is looked at first. -/
def readLabel? : BooleanStyle → String → Option Bool
  | .native, _ => none
  | .labels _ trueLabel falseLabel, label =>
    if label = trueLabel then some true else if label = falseLabel then some false else none

end BooleanStyle

/-! ## Predicates -/

inductive Comparison where
  | eq | ne | gt | ge | lt | le
  deriving DecidableEq, Repr

inductive Connective where
  | and | or
  deriving DecidableEq, Repr

/-- The tests that a call applies to a member. -/
inductive Test where
  | contains | startsWith | endsWith | any | anyMatch | inList
  deriving DecidableEq, Repr

def Comparison.token : Comparison → String
  | .eq => "eq"
  | .ne => "ne"
  | .gt => "gt"
  | .ge => "ge"
  | .lt => "lt"
  | .le => "le"

def Connective.token : Connective → String
  | .and => "and"
  | .or => "or"

def Test.name : Test → String
  | .contains => "contains"
  | .startsWith => "starts-with"
  | .endsWith => "ends-with"
  | .any => "any"
  | .anyMatch => "any-match"
  | .inList => "in-list"

inductive Predicate where
  | literal (value : Literal)
  | field (path : Path)
  | compare (op : Comparison) (left right : Predicate)
  | logical (op : Connective) (left right : Predicate)
  | not (operand : Predicate)
  | call (test : Test) (target : Predicate) (arguments : List Predicate)

/-- What a predicate is at its root, as failures report it. -/
inductive NodeKind where
  | literal
  | field
  | compare
  | logical
  | not
  | call (test : Test)
  /-- A collection test with a predicate of its own. -/
  | anyLambda
  /-- The scope itself used as a member. -/
  | lambdaElement
  deriving DecidableEq, Repr

def NodeKind.name : NodeKind → String
  | .literal => "literal"
  | .field => "field"
  | .compare => "compare"
  | .logical => "logical"
  | .not => "not"
  | .call test => test.name
  | .anyLambda => "any-lambda"
  | .lambdaElement => "lambda-element"

namespace Predicate

def kind : Predicate → NodeKind
  | .literal _ => .literal
  | .field _ => .field
  | .compare .. => .compare
  | .logical .. => .logical
  | .not _ => .not
  | .call test .. => .call test

/-- The scope itself: the element inside the predicate of a collection test. -/
def element : Predicate := .field .current

def ofPath (name : String) : Predicate := .field (.ofText name)

def isNull (p : Predicate) : Predicate := .compare .eq p (.literal .null)

def contains (p : Predicate) (needle : String) : Predicate :=
  .call .contains p [.literal (.string needle)]

def startsWith (p : Predicate) (head : String) : Predicate :=
  .call .startsWith p [.literal (.string head)]

def endsWith (p : Predicate) (tail : String) : Predicate :=
  .call .endsWith p [.literal (.string tail)]

def inList (p : Predicate) (values : List Literal) : Predicate :=
  .call .inList p (values.map .literal)

def any (p : Predicate) : Predicate := .call .any p []

/-- Some element fulfils the condition, whose fields are members of the element. -/
def anyWhere (p condition : Predicate) : Predicate := .call .any p [condition]

/-- Some element equals the value. -/
def anyMatch (p : Predicate) (value : Literal) : Predicate := .call .anyMatch p [.literal value]

def literal? : Predicate → Option Literal
  | .literal v => some v
  | _ => none

mutual

/-- Equality of shape, with constants compared by `Literal.same`. -/
def same : Predicate → Predicate → Bool
  | .literal a, .literal b => a.same b
  | .field p, .field q => p = q
  | .compare o a b, .compare o' a' b' => o = o' && same a a' && same b b'
  | .logical o a b, .logical o' a' b' => o = o' && same a a' && same b b'
  | .not a, .not a' => same a a'
  | .call t a as, .call t' a' as' => t = t' && same a a' && sameAll as as'
  | _, _ => false

def sameAll : List Predicate → List Predicate → Bool
  | [], [] => true
  | p :: ps, q :: qs => same p q && sameAll ps qs
  | _, _ => false

end

mutual

def rename (aliases : Aliases) : Predicate → Predicate
  | .literal v => .literal v
  | .field path => .field (aliases.resolvePath path)
  | .compare op a b => .compare op (rename aliases a) (rename aliases b)
  | .logical op a b => .logical op (rename aliases a) (rename aliases b)
  | .not a => .not (rename aliases a)
  | .call test target arguments =>
    .call test (rename aliases target) (renameAll aliases arguments)

def renameAll (aliases : Aliases) : List Predicate → List Predicate
  | [] => []
  | p :: ps => rename aliases p :: renameAll aliases ps

end

def constant? : Predicate → Option Bool
  | .literal v => v.toBool?
  | _ => none

/-- A connective over operands that are folded already. -/
def foldLogical (op : Connective) (a b : Predicate) : Predicate :=
  match op, constant? a, constant? b with
  | .and, some false, _ | .and, _, some false => .literal (.boolean false)
  | .or, some true, _ | .or, _, some true => .literal (.boolean true)
  | .and, some true, _ | .or, some false, _ => b
  | .and, _, some true | .or, _, some false => a
  | _, none, none => .logical op a b

def foldNot (a : Predicate) : Predicate :=
  match a with
  | .literal (.boolean b) => .literal (.boolean !b)
  | a => .not a

/-- Carries boolean constants through negations and connectives. Comparisons and calls stay as
they are. -/
def fold : Predicate → Predicate
  | .not a => foldNot (fold a)
  | .logical op a b => foldLogical op (fold a) (fold b)
  | p => p

@[simp] theorem kind_call (test : Test) (target : Predicate) (arguments : List Predicate) :
    (call test target arguments).kind = .call test := rfl

end Predicate

end RecordQuery
