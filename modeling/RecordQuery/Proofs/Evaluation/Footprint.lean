import RecordQuery.Proofs.Evaluation.Chain
import RecordQuery.Proofs.Evaluation.Comparison
import RecordQuery.Proofs.Json.Agreement

/-!
# What a predicate looks at

A predicate comes out alike on two records that agree at its own paths, and a member that a record
does not have may as well be null. What the condition of a collection test looks at lies inside the
elements, so its paths need no mention.
-/
namespace RecordQuery

open Json (Agrees)

/-- The paths of a predicate outside the conditions of collection tests. A call looks at its target
alone, for its arguments are constants, conditions or refused. -/
def Predicate.ownPaths : Predicate → List Path
  | .literal _ => []
  | .field p => [p]
  | .compare _ a b | .logical _ a b => ownPaths a ++ ownPaths b
  | .not a => ownPaths a
  | .call _ target _ => ownPaths target

theorem Json.Agrees.scalar {x y : Json} (h : x.Agrees y) :
    (Operand.record x).scalar.Agrees (Operand.record y).scalar := by
  cases h with
  | refl => exact .refl _
  | real same => exact .real same
  | array same => exact .structured same
  | object same => exact .structured same

namespace Evaluation

variable {style : BooleanStyle}

section Missing

variable (value : Option Json)

/-! A member that is missing does what a null member does. -/

theorem fieldTruth_getD :
    fieldTruth style value = fieldTruth style (some (value.getD .null)) := by
  cases value <;> rfl

theorem scalar_fieldOperand :
    (fieldOperand value).scalar = (Operand.record (value.getD .null)).scalar := by
  cases value <;> rfl

theorem constantTest_getD (t : Test) (arguments : List Predicate) :
    constantTest style t arguments value =
      constantTest style t arguments (some (value.getD .null)) := by
  cases value with
  | none => cases t <;> rfl
  | some j => rfl

end Missing

theorem fieldTruth_agrees {x y : Json} (h : x.Agrees y) :
    fieldTruth style (some x) = fieldTruth style (some y) := by
  cases h <;> rfl

theorem any_agrees {test : Json → Bool} (htest : ∀ {x y : Json}, x.Agrees y → test x = test y)
    {xs ys : List Json} (h : List.Forall₂ Agrees xs ys) : xs.any test = ys.any test := by
  induction h with
  | nil => rfl
  | cons hfirst _ ih => rw [List.any_cons, List.any_cons, htest hfirst, ih]

theorem constantTest_agrees (t : Test) (arguments : List Predicate) {x y : Json}
    (h : x.Agrees y) :
    constantTest style t arguments (some x) = constantTest style t arguments (some y) := by
  have hequal (wanted : Literal) {x y : Json} (h : x.Agrees y) :
      Operand.equal style (.record x) (.constant wanted) =
        Operand.equal style (.record y) (.constant wanted) :=
    Operand.equal_congr_left h.scalar _
  cases t with
  | anyMatch =>
    simp only [constantTest]
    split
    · cases h with
      | array same =>
        exact congrArg _ (any_agrees (hequal _) (Agrees.forall₂_of_sameItems same))
      | _ => rfl
    · rfl
  | inList => simp only [constantTest, fieldOperand, hequal _ h]
  | _ =>
    simp only [constantTest]
    split
    · cases h <;> rfl
    · rfl

theorem operand_agrees {e : Predicate} {r r' : Json}
    (h : ∀ p ∈ e.ownPaths, (r.valueAt p).Agrees (r'.valueAt p)) :
    (∃ a a', operand r e = .ok a ∧ operand r' e = .ok a' ∧ a.scalar.Agrees a'.scalar) ∨
      ∃ f, operand r e = .error f ∧ operand r' e = .error f := by
  cases e with
  | literal v => exact .inl ⟨_, _, rfl, rfl, .refl _⟩
  | field p =>
    refine .inl ⟨_, _, rfl, rfl, ?_⟩
    rw [scalar_fieldOperand, scalar_fieldOperand]
    exact (h p List.mem_cons_self).scalar
  | _ => exact .inr ⟨_, rfl, rfl⟩

theorem truth_compare_agrees (op : Comparison) {a b : Predicate} {r r' : Json}
    (ha : ∀ p ∈ a.ownPaths, (r.valueAt p).Agrees (r'.valueAt p))
    (hb : ∀ p ∈ b.ownPaths, (r.valueAt p).Agrees (r'.valueAt p)) :
    truth style (.compare op a b) r = truth style (.compare op a b) r' := by
  rw [truth, truth]
  rcases operand_agrees ha with ⟨x, x', hx, hx', hagree⟩ | ⟨f, hx, hx'⟩
  · rw [hx, hx']
    rcases operand_agrees hb with ⟨y, y', hy, hy', hagree'⟩ | ⟨f, hy, hy'⟩
    · rw [hy, hy']
      exact congrArg Except.ok (Operand.compare_congr op hagree hagree')
    · rw [hy, hy']
      rfl
  · rw [hx, hx']
    rfl

theorem truth_any (p : Path) (arguments : List Predicate) (scope : Json) :
    truth style (.call .any (.field p) arguments) scope =
      match scope.valueAt p with
      | .array items => anyTruth style arguments items
      | _ => .ok false := by
  unfold Json.valueAt
  rw [truth]
  cases scope.resolvePath? p with
  | none => rfl
  | some j => cases j <;> rfl

theorem truth_constants {t : Test} (ht : t ≠ .any) (p : Path) (arguments : List Predicate)
    (scope : Json) :
    truth style (.call t (.field p) arguments) scope =
      constantTest style t arguments (some (scope.valueAt p)) := by
  rw [truth, constantTest_getD]
  · rfl
  · exact ht

mutual

/-- Of a record, a predicate sees what stands at its own paths. -/
theorem truth_agrees : ∀ {e : Predicate} {r r' : Json},
    (∀ p ∈ e.ownPaths, (r.valueAt p).Agrees (r'.valueAt p)) → truth style e r = truth style e r'
  | .literal v, _, _, _ => by cases v <;> rfl
  | .field p, r, r', h => by
    rw [truth, truth, fieldTruth_getD, fieldTruth_getD (r'.resolvePath? p)]
    exact fieldTruth_agrees (h p List.mem_cons_self)
  | .compare op a b, r, r', h => by
    obtain ⟨ha, hb⟩ := List.forall_mem_append.mp h
    exact truth_compare_agrees op ha hb
  | .logical op a b, r, r', h => by
    obtain ⟨ha, hb⟩ := List.forall_mem_append.mp h
    cases op <;> rw [truth, truth, truth_agrees ha, truth_agrees hb]
  | .not a, r, r', h => by rw [truth, truth, truth_agrees (e := a) h]
  | .call t target arguments, r, r', h => by
    cases target with
    | field p =>
      have hp := h p List.mem_cons_self
      cases t with
      | any =>
        rw [truth_any, truth_any]
        generalize r.valueAt p = x at hp ⊢
        generalize r'.valueAt p = y at hp ⊢
        cases hp with
        | array same => exact anyTruth_agrees (Agrees.forall₂_of_sameItems same)
        | _ => rfl
      | _ =>
        rw [truth_constants (by decide), truth_constants (by decide)]
        exact constantTest_agrees _ arguments hp
    | _ => cases t <;> rfl

theorem anyTruth_agrees : ∀ {arguments : List Predicate} {xs ys : List Json},
    List.Forall₂ Agrees xs ys → anyTruth style arguments xs = anyTruth style arguments ys
  | [], xs, ys, h => by cases h <;> rfl
  | [condition], xs, ys, h =>
    someElement_congr (h.imp fun _ _ hitem => truth_agrees fun p _ => hitem.valueAt p)
  | _ :: _ :: _, _, _, _ => rfl

end

end Evaluation

/-- A predicate does the same to two records, failures included, if they have the same value at
each of its own paths; there a missing member is as good as null. -/
theorem Predicate.holds_eq_of_agree (style : BooleanStyle) (e : Predicate) {r r' : Json}
    (h : ∀ p ∈ e.ownPaths,
      r.valueAt p = r'.valueAt p ∨ (r.valueAt p).same (r'.valueAt p)) :
    e.holds style r = e.holds style r' :=
  Evaluation.truth_agrees fun p hp => Json.agrees_iff.mpr (h p hp)

/-- A member that is null here and missing there, zeros of either sign inside a collection, and
other members that nobody asks for. -/
theorem Predicate.holds_eq_of_agree_zeros :
    let e : Predicate := .logical .and (.isNull (.field ⟨["Site", "Name"]⟩))
      (.anyWhere (.field ⟨["Legs"]⟩) (.compare .le (.field ⟨["Miles"]⟩) (.literal (.real .zero))))
    let legs (miles : Binary64) : Json := .array [.object [("Miles", .number (.real miles))]]
    let r : Json := .object [("Legs", legs .zero), ("Site", .object [("Name", .null)])]
    let r' : Json := .object [("Legs", legs (.neg .zero)), ("Rank", .ofNat 7)]
    (∀ p ∈ e.ownPaths, r.valueAt p = r'.valueAt p ∨ (r.valueAt p).same (r'.valueAt p)) ∧
      e.holds .native r = .ok true ∧ e.holds .native r' = .ok true := by
  intro e legs r r'
  have hagree : ∀ p ∈ e.ownPaths,
      r.valueAt p = r'.valueAt p ∨ (r.valueAt p).same (r'.valueAt p) :=
    List.forall_mem_cons.mpr ⟨.inl rfl, List.forall_mem_cons.mpr ⟨.inr (by decide), by simp⟩⟩
  have hholds : e.holds .native r = .ok true := by rfl
  exact ⟨hagree, hholds, holds_eq_of_agree .native e hagree ▸ hholds⟩

end RecordQuery
