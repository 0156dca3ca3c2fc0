import RecordQuery.Failure
import RecordQuery.Number.Notation
import RecordQuery.Text.Quoted

/-!
# Filter clauses

The clause of a predicate. A chain of one connective stays flat; a connective inside the other
one is put in parentheses, and so is the operand of `not` unless it is a constant, a field or a
call that is written as one term.
-/
namespace RecordQuery

/-! ## Constants

The text of a constant is the same in a filter clause and in a key. -/

/-- A member of an enumeration: the type, and the label as a quoted string. -/
def memberText (typeName label : String) : List Char :=
  typeName.toList ++ Text.Quoted.quote label.toList

def BooleanStyle.text : BooleanStyle → Bool → List Char
  | .native, b => if b then "true".toList else "false".toList
  | .labels typeName trueLabel falseLabel, b =>
    memberText typeName (if b then trueLabel else falseLabel)

def Literal.text (style : BooleanStyle) : Literal → List Char
  | .string s => Text.Quoted.quote s.toList
  | .integer i => Text.Digits.ofInt i
  | .real x => x.clauseText
  | .boolean b => style.text b
  | .instant t => t.clauseText
  | .null => "null".toList
  | .member typeName label => memberText typeName label

/-! ## Predicates -/

namespace Clause

def tokenChars (token : String) : List Char := ' ' :: (token.toList ++ [' '])

def parenthesized (text : List Char) : List Char := '(' :: (text ++ [')'])

/-- The scope itself has no name outside a lambda. -/
def path (p : Path) : Except Failure (List Char) :=
  if p.isCurrent then .error (.uncompilable .lambdaElement) else .ok p.chars

/-- Only constants and fields are compared. -/
def operand (style : BooleanStyle) : Predicate → Except Failure (List Char)
  | .literal v => .ok (v.text style)
  | .field p => path p
  | p => .error (.uncompilable p.kind)

/-- Adds a value behind the others unless an equal one is there. -/
def addDistinct (seen : List Literal) (v : Literal) : List Literal :=
  if seen.any (·.same v) then seen else seen ++ [v]

/-- The different values of a list in the order of their first appearance. -/
def distinct (values : List Literal) : List Literal := values.foldl addDistinct []

/-- The different constants of an argument list, if it holds constants only. -/
def distinctLiterals? (arguments : List Predicate) : Option (List Literal) :=
  (arguments.mapM Predicate.literal?).map distinct

def equation (style : BooleanStyle) (member : List Char) (v : Literal) : List Char :=
  member ++ tokenChars "eq" ++ v.text style

/-- Membership in a list of different values. -/
def membership (style : BooleanStyle) (member : List Char) : List Literal → List Char
  | [] => "false".toList
  | [v] => equation style member v
  | vs => parenthesized ((vs.map (equation style member)).intersperse (tokenChars "or")).flatten

def functionName : Test → String
  | .contains => "contains"
  | .startsWith => "startswith"
  | .endsWith => "endswith"
  | test => test.name

/-- A test applied to a member whose text is given. -/
def test (style : BooleanStyle) (t : Test) (arguments : List Predicate) (member : List Char) :
    Except Failure (List Char) :=
  let refused := Except.error (.uncompilable (.call t))
  match t with
  | .contains | .startsWith | .endsWith =>
    match arguments with
    | [.literal (.string s)] =>
      .ok ((functionName t).toList ++
        parenthesized (member ++ ',' :: Text.Quoted.quote s.toList))
    | _ => refused
  | .any =>
    if arguments.isEmpty then .ok (member ++ "/any()".toList)
    else .error (.uncompilable .anyLambda)
  | .anyMatch =>
    match arguments with
    | [.literal v] => .ok (member ++ "/any(x: x eq ".toList ++ v.text style ++ [')'])
    | _ => refused
  | .inList =>
    match distinctLiterals? arguments with
    | some vs => .ok (membership style member vs)
    | none => refused

def call (style : BooleanStyle) (t : Test) (target : Predicate) (arguments : List Predicate) :
    Except Failure (List Char) :=
  match target with
  | .field p => path p >>= test style t arguments
  | _ => .error (.uncompilable (.call t))

/-- Whether a predicate can stand after `not` without parentheses. -/
def isSelfDelimited : Predicate → Bool
  | .literal _ | .field _ => true
  | .call .inList _ arguments =>
    match distinctLiterals? arguments with
    | some vs => vs.length ≠ 1
    | none => true
  | .call .. => true
  | .compare .. | .logical .. | .not _ => false

/-- The clause of a predicate that stands directly under the given connective, if under any. -/
def chars (style : BooleanStyle) (parent : Option Connective) :
    Predicate → Except Failure (List Char)
  | .literal v => .ok (v.text style)
  | .field p => path p
  | .compare op a b => do
    let a ← operand style a
    let b ← operand style b
    return a ++ tokenChars op.token ++ b
  | .logical op a b => do
    let a ← chars style (some op) a
    let b ← chars style (some op) b
    let text := a ++ tokenChars op.token ++ b
    return if parent.any (· ≠ op) then parenthesized text else text
  | .not a => do
    let text ← chars style none a
    return "not ".toList ++ if isSelfDelimited a then text else parenthesized text
  | .call t target arguments => call style t target arguments

end Clause

def Predicate.clause (style : BooleanStyle) (p : Predicate) : Except Failure String :=
  (Clause.chars style none p).map String.ofList

end RecordQuery
