import RecordQuery.Proofs.Clause.Accepted
import RecordQuery.Proofs.Evaluation.Footprint

/-!
# One place inside a predicate

A context is a predicate with a gap. Predicates of one kind that have the same text and come out
alike stay so wherever they stand: a comparison refuses both, a call has no use for either as its
target or as a constant, and all else about them is their text and their outcome.
-/
namespace RecordQuery

namespace Predicate

inductive Context where
  | hole
  | compareLeft (op : Comparison) (left : Context) (right : Predicate)
  | compareRight (op : Comparison) (left : Predicate) (right : Context)
  | logicalLeft (op : Connective) (left : Context) (right : Predicate)
  | logicalRight (op : Connective) (left : Predicate) (right : Context)
  | not (operand : Context)
  | callTarget (test : Test) (target : Context) (arguments : List Predicate)
  | callArgument (test : Test) (target : Predicate) (before : List Predicate) (argument : Context)
      (after : List Predicate)

/-- The predicate that arises when the gap is filled. -/
def Context.fill (e : Predicate) : Context → Predicate
  | .hole => e
  | .compareLeft op c b => .compare op (fill e c) b
  | .compareRight op a c => .compare op a (fill e c)
  | .logicalLeft op c b => .logical op (fill e c) b
  | .logicalRight op a c => .logical op a (fill e c)
  | .not c => .not (fill e c)
  | .callTarget t c arguments => .call t (fill e c) arguments
  | .callArgument t target before c after => .call t target (before ++ fill e c :: after)

/-- Neither a constant nor a member. -/
def isCompound : Predicate → Bool
  | .literal _ | .field _ => false
  | .compare .. | .logical .. | .not _ | .call .. => true

structure Alike (a b : Predicate) : Prop where
  kind : a.kind = b.kind
  left : a.isCompound
  right : b.isCompound

theorem Alike.fill {a b : Predicate} (h : Alike a b) (c : Context) :
    Alike (c.fill a) (c.fill b) := by
  cases c with
  | hole => exact h
  | _ => exact ⟨rfl, rfl, rfl⟩

theorem literal?_of_isCompound {e : Predicate} (h : e.isCompound) : e.literal? = none := by
  cases e with
  | literal v => contradiction
  | _ => rfl

theorem not_mem_map_literal {e : Predicate} (h : e.literal? = none) (vs : List Literal) :
    e ∉ vs.map Predicate.literal := by
  rintro he
  obtain ⟨v, -, rfl⟩ := List.mem_map.mp he
  contradiction

end Predicate

open Predicate

namespace Clause

variable {style : BooleanStyle}

theorem operand_of_isCompound {e : Predicate} (h : e.isCompound) :
    operand style e = .error (.uncompilable e.kind) := by
  cases e with
  | literal | field => contradiction
  | _ => rfl

theorem call_of_isCompound {e : Predicate} (h : e.isCompound) (t : Test)
    (arguments : List Predicate) :
    call style t e arguments = .error (.uncompilable (.call t)) := by
  cases e with
  | literal | field => contradiction
  | _ => rfl

/-- What is reported for a test whose arguments have no clause. -/
def refusal : Test → NodeKind
  | .any => .anyLambda
  | t => .call t

section Argument

variable {e : Predicate} (h : e.literal? = none) {arguments : List Predicate} (he : e ∈ arguments)

include h he

theorem distinctLiterals?_of_mem : distinctLiterals? arguments = none := by
  rw [distinctLiterals?, Option.map_eq_none_iff, Option.eq_none_iff_forall_ne_some]
  rintro vs hvs
  rw [eq_map_of_mapM_literal hvs] at he
  exact not_mem_map_literal h vs he

theorem test_of_mem (t : Test) (member : List Char) :
    test style t arguments member = .error (.uncompilable (refusal t)) := by
  cases t with
  | any =>
    have hne : arguments.isEmpty = false := by
      rw [List.isEmpty_eq_false_iff]
      exact List.ne_nil_of_mem he
    simp only [test, hne]
    rfl
  | inList =>
    simp only [test, distinctLiterals?_of_mem h he]
    rfl
  | _ =>
    simp only [test]
    split
    · obtain rfl := List.mem_singleton.mp he
      contradiction
    · rfl

end Argument

section Fill

variable {a b : Predicate} (h : Alike a b)

include h

theorem isSelfDelimited_fill (hd : isSelfDelimited a = isSelfDelimited b) (c : Context) :
    isSelfDelimited (c.fill a) = isSelfDelimited (c.fill b) := by
  cases c with
  | hole => exact hd
  | callArgument t target before c after =>
    have hleft := literal?_of_isCompound (h.fill c).left
    have hright := literal?_of_isCompound (h.fill c).right
    cases t with
    | inList =>
      simp only [Context.fill, isSelfDelimited]
      rw [distinctLiterals?_of_mem hleft (by simp), distinctLiterals?_of_mem hright (by simp)]
    | _ => rfl
  | callTarget t c arguments => cases t <;> rfl
  | _ => rfl

theorem chars_fill (hd : isSelfDelimited a = isSelfDelimited b)
    (ht : ∀ parent, chars style parent a = chars style parent b) :
    ∀ (c : Context) (parent : Option Connective),
      chars style parent (c.fill a) = chars style parent (c.fill b)
  | .hole, parent => ht parent
  | .compareLeft _ c _, _ | .compareRight _ _ c, _ => by
    simp only [Context.fill, chars, operand_of_isCompound (h.fill c).left,
      operand_of_isCompound (h.fill c).right, (h.fill c).kind]
  | .logicalLeft _ c _, _ | .logicalRight _ _ c, _ => by
    simp only [Context.fill, chars, chars_fill hd ht c]
  | .not c, _ => by
    simp only [Context.fill, chars, chars_fill hd ht c, isSelfDelimited_fill h hd c]
  | .callTarget t c arguments, _ => by
    simp only [Context.fill, chars, call_of_isCompound (h.fill c).left,
      call_of_isCompound (h.fill c).right]
  | .callArgument t target before c after, _ => by
    have hleft := literal?_of_isCompound (h.fill c).left
    have hright := literal?_of_isCompound (h.fill c).right
    cases target with
    | field p =>
      have htest (member : List Char) :
          test style t (before ++ c.fill a :: after) member =
            test style t (before ++ c.fill b :: after) member := by
        rw [test_of_mem hleft (by simp), test_of_mem hright (by simp)]
      simp only [Context.fill, chars, call, funext htest]
    | _ => rfl

end Fill

end Clause

namespace Evaluation

variable {style : BooleanStyle}

theorem operand_of_isCompound {e : Predicate} (h : e.isCompound) (scope : Json) :
    operand scope e = .error (.unevaluable e.kind) := by
  cases e with
  | literal | field => contradiction
  | _ => rfl

theorem truth_call_of_isCompound {e : Predicate} (h : e.isCompound) (t : Test)
    (arguments : List Predicate) (scope : Json) :
    truth style (.call t e arguments) scope = .error (.unevaluable (.call t)) := by
  cases e with
  | literal | field => contradiction
  | _ => cases t <;> rfl

/-- A test that takes constants refuses anything else, whatever the value is. -/
theorem constantTest_of_mem {e : Predicate} (h : e.literal? = none) {arguments : List Predicate}
    (he : e ∈ arguments) (t : Test) (value : Option Json) :
    constantTest style t arguments value = .error (.unevaluable (.call t)) := by
  cases t with
  | inList =>
    simp only [constantTest]
    split
    · next vs hvs =>
      rw [Clause.eq_map_of_mapM_literal hvs] at he
      exact absurd he (not_mem_map_literal h vs)
    · rfl
  | _ =>
    simp only [constantTest]
    split
    · obtain rfl := List.mem_singleton.mp he
      contradiction
    · rfl

section Fill

variable {a b : Predicate}

theorem anyTruth_fill {c : Context}
    (ht : ∀ scope, truth style (c.fill a) scope = truth style (c.fill b) scope)
    (before after : List Predicate) (items : List Json) :
    anyTruth style (before ++ c.fill a :: after) items =
      anyTruth style (before ++ c.fill b :: after) items := by
  cases before with
  | nil =>
    cases after with
    | nil => exact someElement_congr (List.forall₂_same.mpr fun item _ => ht item)
    | cons _ _ => rfl
  | cons first before => cases before <;> rfl

theorem truth_fill (h : Alike a b) (ht : ∀ scope, truth style a scope = truth style b scope) :
    ∀ (c : Context) (scope : Json), truth style (c.fill a) scope = truth style (c.fill b) scope
  | .hole, scope => ht scope
  | .compareLeft _ c _, _ | .compareRight _ _ c, _ => by
    simp only [Context.fill, truth, operand_of_isCompound (h.fill c).left,
      operand_of_isCompound (h.fill c).right, (h.fill c).kind]
  | .logicalLeft op c _, _ | .logicalRight op _ c, _ => by
    cases op <;> simp only [Context.fill, truth, truth_fill h ht c]
  | .not c, _ => by simp only [Context.fill, truth, truth_fill h ht c]
  | .callTarget t c arguments, scope => by
    rw [Context.fill, Context.fill, truth_call_of_isCompound (h.fill c).left,
      truth_call_of_isCompound (h.fill c).right]
  | .callArgument t target before c after, scope => by
    have hleft := literal?_of_isCompound (h.fill c).left
    have hright := literal?_of_isCompound (h.fill c).right
    cases target with
    | field p =>
      cases t with
      | any => simp only [Context.fill, truth_any, anyTruth_fill (truth_fill h ht c)]
      | _ =>
        simp only [Context.fill, truth]
        rw [constantTest_of_mem hleft (by simp), constantTest_of_mem hright (by simp)]
    | _ => cases t <;> rfl

end Fill

end Evaluation

end RecordQuery
