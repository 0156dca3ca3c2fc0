import RecordQuery.Predicate.Basic
import RecordQuery.Proofs.Clause.Token

/-!
# The grammar of clauses

What the tokens of a clause stand for. `not` binds tighter than the comparisons, these bind
tighter than `and`, and `and` binds tighter than `or`; operators of one level are read from the
left. No list of tokens stands for two expressions.
-/
namespace RecordQuery.Clause

inductive Operator where
  | comparison (op : Comparison)
  | connective (op : Connective)
  deriving DecidableEq, Repr

namespace Operator

/-- The word between the operands. -/
def token : Operator → List Char
  | comparison .eq => "eq".toList
  | comparison .ne => "ne".toList
  | comparison .gt => "gt".toList
  | comparison .ge => "ge".toList
  | comparison .lt => "lt".toList
  | comparison .le => "le".toList
  | connective .and => "and".toList
  | connective .or => "or".toList

/-- Of two operators the one of the greater level binds tighter. -/
def level : Operator → Nat
  | connective .or => 0
  | connective .and => 1
  | comparison .eq | comparison .ne => 2
  | comparison _ => 3

def all : List Operator :=
  [comparison .eq, comparison .ne, comparison .gt, comparison .ge, comparison .lt, comparison .le,
    connective .and, connective .or]

def ofWord? (w : List Char) : Option Operator := all.find? (·.token = w)

theorem level_le (op : Operator) : op.level ≤ 3 := by
  rcases op with op | op <;> cases op <;> decide

@[simp] theorem ofWord?_token (op : Operator) : ofWord? op.token = some op := by
  rcases op with op | op <;> cases op <;> decide

end Operator

/-- The level of `not`, above that of every operator between two operands. -/
def negationLevel : Nat := 4

/-- The level of what needs no parentheses anywhere. -/
def termLevel : Nat := 5

/-- What a clause says. Members are kept as their texts, and constants as their tokens: a string is
what stands between its quotes. -/
inductive Expression where
  | member (path : List Char)
  | constant (token : Token)
  | binary (op : Operator) (left right : Expression)
  | not (operand : Expression)
  | function (name : List Char) (first second : Expression)
  /-- The collection has an element. -/
  | any (path : List Char)
  /-- Some element, called by a name, fulfils the condition. -/
  | anyWhere (path element : List Char) (condition : Expression)
  deriving DecidableEq, Repr

/-- The letters of every script count, so all characters beyond ASCII are admitted. -/
def isLetter (c : Char) : Bool := c.isAlpha || c = '_' || 127 < c.toNat

def isIdentifier : List Char → Bool
  | [] => false
  | c :: rest => isLetter c && rest.all fun d => isLetter d || d.isDigit

/-- Words that are operators or constants and so name no member. -/
def reservedWords : List String :=
  ["and", "or", "not", "eq", "ne", "gt", "ge", "lt", "le", "true", "false", "null", "NaN", "INF"]

def isReserved (w : List Char) : Bool := reservedWords.any (·.toList = w)

/-- Names between slashes. -/
def isPath (w : List Char) : Bool :=
  (w.splitOn '/').all fun name => isIdentifier name && !isReserved name

/-- Identifiers between dots. -/
def isDotted (w : List Char) : Bool := (w.splitOn '.').all isIdentifier

/-- Numbers and dates begin with a digit, or with a sign and a digit. No more is asked of them
here. -/
def startsNumber : List Char → Bool
  | [] => false
  | c :: rest => c.isDigit || ((c = '+' || c = '-') && rest.head?.any Char.isDigit)

/-- A constant without quotes. -/
def isBare (w : List Char) : Bool :=
  ["true", "false", "null", "NaN", "INF", "-INF"].any (·.toList = w) || startsNumber w

/-- The tokens stand for the expression at a level, and at all levels below. -/
inductive Derives : Nat → List Token → Expression → Prop
  | member {w : List Char} (path : isPath w) : Derives termLevel [.word w] (.member w)
  | bare {w : List Char} (bare : isBare w) : Derives termLevel [.word w] (.constant (.word w))
  | string (s : List Char) : Derives termLevel [.quoted [] s] (.constant (.quoted [] s))
  | typed {typeName : List Char} (dotted : isDotted typeName) (label : List Char) :
      Derives termLevel [.quoted typeName label] (.constant (.quoted typeName label))
  | group {ts : List Token} {e : Expression} (inner : Derives 0 ts e) :
      Derives termLevel (.opening [] :: ts ++ [.closing]) e
  | function {name : List Char} {ts us : List Token} {a b : Expression}
      (identifier : isIdentifier name) (first : Derives 0 ts a) (second : Derives 0 us b) :
      Derives termLevel (.opening name :: ts ++ .comma :: us ++ [.closing]) (.function name a b)
  | any {w : List Char} (path : isPath w) :
      Derives termLevel [.opening (w ++ "/any".toList), .closing] (.any w)
  | anyWhere {w element : List Char} {ts : List Token} {e : Expression} (path : isPath w)
      (identifier : isIdentifier element) (condition : Derives 0 ts e) :
      Derives termLevel
        (.opening (w ++ "/any".toList) :: .word (element ++ [':']) :: ts ++ [.closing])
        (.anyWhere w element e)
  | not {ts : List Token} {e : Expression} (operand : Derives negationLevel ts e) :
      Derives negationLevel (.word "not".toList :: ts) (.not e)
  | binary {ts us : List Token} {a b : Expression} (op : Operator)
      (left : Derives op.level ts a) (right : Derives (op.level + 1) us b) :
      Derives op.level (ts ++ .word op.token :: us) (.binary op a b)
  | tighter {n : Nat} {ts : List Token} {e : Expression} (inner : Derives (n + 1) ts e) :
      Derives n ts e

/-- A text that reads as an expression. -/
def IsReading (text : List Char) (e : Expression) : Prop :=
  ∃ ts, tokens? text = some ts ∧ Derives 0 ts e

theorem Derives.mono {m n : Nat} {ts : List Token} {e : Expression} (h : Derives n ts e)
    (hmn : m ≤ n) : Derives m ts e := by
  induction n with
  | zero => exact Nat.le_zero.mp hmn ▸ h
  | succ n ih =>
    rcases Nat.le_succ_iff.mp hmn with hle | rfl
    · exact ih h.tighter hle
    · exact h

end RecordQuery.Clause
