import RecordQuery.Proofs.Predicate.Constituents

/-!
# Chains of connectives

Operands joined by one connective, with the brackets moved to the left.
-/
namespace RecordQuery.Predicate

/-- Puts an operand in front of a chain of the same connective. -/
def join (op : Connective) (a : Predicate) : Predicate → Predicate
  | .logical op' b c =>
    if op' = op then .logical op (join op a b) c else .logical op a (.logical op' b c)
  | b => .logical op a b

/-- Every chain of one connective is read from the left. -/
def leftward : Predicate → Predicate
  | .logical op a b => join op (leftward a) (leftward b)
  | .not a => .not (leftward a)
  | e => e

@[simp] theorem leftward_call (t : Test) (target : Predicate) (arguments : List Predicate) :
    leftward (.call t target arguments) = .call t target arguments := rfl

/-- Whether a predicate is a chain of the connective. -/
def isChain (op : Connective) : Predicate → Bool
  | .logical op' _ _ => op' = op
  | _ => false

theorem join_of_not_isChain {op : Connective} (a : Predicate) {b : Predicate}
    (h : b.isChain op = false) : join op a b = .logical op a b := by
  cases b <;> simp_all [join, isChain]

@[simp] theorem join_logical (op : Connective) (a b c : Predicate) :
    join op a (.logical op b c) = .logical op (join op a b) c := by
  simp [join]

theorem join_assoc (op : Connective) (a b : Predicate) :
    ∀ c, join op a (join op b c) = join op (join op a b) c
  | .logical op' c d => by
    by_cases h : op' = op
    · subst h
      simp [join_assoc op' a b c]
    · simp [join, h]
  | .literal _ | .field _ | .compare .. | .not _ | .call .. => by simp [join]

theorem isChain_join (op op' : Connective) (a b : Predicate) :
    (join op a b).isChain op' = decide (op = op') := by
  cases b with
  | logical o c d => by_cases h : o = op <;> simp [join, h, isChain]
  | _ => simp [join, isChain]

theorem isChain_leftward (op : Connective) (e : Predicate) :
    e.leftward.isChain op = e.isChain op := by
  cases e with
  | logical op' a b => exact isChain_join op' op _ _
  | _ => rfl

theorem each_join {P : Path → Prop} {L : Literal → Prop} (op : Connective) (a : Predicate) :
    ∀ b, Each P L (join op a b) ↔ Each P L a ∧ Each P L b
  | .logical op' b c => by
    unfold join
    split
    · rw [Each, each_join op a b, Each, and_assoc]
    · rfl
  | .literal _ | .field _ | .compare .. | .not _ | .call .. => Iff.rfl

theorem each_leftward {P : Path → Prop} {L : Literal → Prop} :
    ∀ e : Predicate, Each P L e.leftward ↔ Each P L e
  | .logical op a b => by
    rw [leftward, each_join, each_leftward a, each_leftward b, Each]
  | .not a => each_leftward a
  | .literal _ | .field _ | .compare .. | .call .. => Iff.rfl

end RecordQuery.Predicate
