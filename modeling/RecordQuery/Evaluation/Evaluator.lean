import RecordQuery.Evaluation.Comparison
import RecordQuery.Failure
import RecordQuery.Text.Lower

/-!
# Evaluating predicates on records

A record is any JSON value. A member that a record does not have reads as null, string tests pay
no heed to case, and the predicate of a collection test is evaluated with the element as its
scope.
-/
namespace RecordQuery

/-- The value of a path in a scope; only objects have members. -/
def Json.resolve? : List String → Json → Option Json
  | [], j => some j
  | name :: rest, j => (j.member? name).bind (Json.resolve? rest)

def Json.resolvePath? (p : Path) (scope : Json) : Option Json := Json.resolve? p.segments scope

namespace Evaluation

/-- The truth value of a field: a boolean, a label that stands for one, or false for null. -/
def fieldTruth (style : BooleanStyle) : Option Json → Except Failure Bool
  | some (.boolean b) => .ok b
  | some (.string s) =>
    match style.readLabel? s with
    | some b => .ok b
    | none => .error (.unevaluable .field)
  | none | some .null => .ok false
  | some _ => .error (.unevaluable .field)

def fieldOperand : Option Json → Operand
  | some j => .record j
  | none => .missing

def operand (scope : Json) : Predicate → Except Failure Operand
  | .literal v => .ok (.constant v)
  | .field p => .ok (fieldOperand (scope.resolvePath? p))
  | p => .error (.unevaluable p.kind)

def isInfix (needle : List Char) : List Char → Bool
  | [] => needle.isEmpty
  | c :: rest => needle.isPrefixOf (c :: rest) || isInfix needle rest

/-- A string test on texts that are in lower case already. -/
def stringTest (t : Test) (needle hay : List Char) : Bool :=
  match t with
  | .contains => isInfix needle hay
  | .startsWith => needle.isPrefixOf hay
  | _ => needle.isSuffixOf hay

/-- The tests that take constants: of the argument list, then of the value. -/
def constantTest (style : BooleanStyle) (t : Test) (arguments : List Predicate)
    (value : Option Json) : Except Failure Bool :=
  let refused := Except.error (.unevaluable (.call t))
  match t with
  | .anyMatch =>
    match arguments with
    | [.literal wanted] =>
      match value with
      | some (.array items) =>
        .ok (items.any fun item => Operand.equal style (.record item) (.constant wanted))
      | _ => .ok false
    | _ => refused
  | .inList =>
    match arguments.mapM Predicate.literal? with
    | some candidates =>
      .ok (candidates.any fun v => Operand.equal style (fieldOperand value) (.constant v))
    | none => refused
  | _ =>
    match arguments with
    | [.literal (.string needle)] =>
      match value with
      | some (.string hay) =>
        .ok (stringTest t (Text.Lower.lower needle.toList) (Text.Lower.lower hay.toList))
      | _ => .ok false
    | _ => refused

/-- Whether a condition holds for some element; elements are tried in order, up to the first for
which it holds or has no truth value. -/
def someElement (condition : Json → Except Failure Bool) : List Json → Except Failure Bool
  | [] => .ok false
  | item :: rest => do if ← condition item then return true else someElement condition rest

mutual

def truth (style : BooleanStyle) : Predicate → Json → Except Failure Bool
  | .literal (.boolean b), _ => .ok b
  | .literal _, _ => .error (.unevaluable .literal)
  | .field p, scope => fieldTruth style (scope.resolvePath? p)
  | .compare op a b, scope => do
    let a ← operand scope a
    let b ← operand scope b
    return Operand.compare style op a b
  | .logical .and a b, scope => do
    if ← truth style a scope then truth style b scope else return false
  | .logical .or a b, scope => do
    if ← truth style a scope then return true else truth style b scope
  | .not a, scope => do return !(← truth style a scope)
  | .call .any (.field p) arguments, scope =>
    match scope.resolvePath? p with
    | some (.array items) => anyTruth style arguments items
    | _ => .ok false
  | .call t (.field p) arguments, scope =>
    constantTest style t arguments (scope.resolvePath? p)
  | .call t _ _, _ => .error (.unevaluable (.call t))

/-- A collection test on the elements of a collection: without a condition it asks for an
element, and more than one condition is refused. -/
def anyTruth (style : BooleanStyle) : List Predicate → List Json → Except Failure Bool
  | [], items => .ok !items.isEmpty
  | [condition], items => someElement (fun item => truth style condition item) items
  | _, _ => .error (.unevaluable (.call .any))

end

end Evaluation

def Predicate.holds (style : BooleanStyle) (p : Predicate) (record : Json) :
    Except Failure Bool :=
  Evaluation.truth style p record

/-- The records that fulfil a predicate, in order; the first record without a truth value ends
the selection. -/
def Predicate.select (style : BooleanStyle) (p : Predicate) :
    List Json → Except Failure (List Json)
  | [] => .ok []
  | record :: rest => do
    let kept ← p.holds style record
    let others ← p.select style rest
    return if kept then record :: others else others

@[simp] theorem Predicate.select_nil (style : BooleanStyle) (p : Predicate) :
    p.select style [] = .ok [] := rfl

end RecordQuery
