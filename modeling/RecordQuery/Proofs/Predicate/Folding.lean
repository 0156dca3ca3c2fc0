import RecordQuery.Proofs.Clause.Accepted
import RecordQuery.Proofs.Evaluation.Chain

/-!
# Folded predicates

What folding does to a connective, and that nobody notices: a predicate that comes out true or
false still does so when it is folded, and one that has a clause still has one. No boolean constant
is left as an operand. Folding may drop an operand that fails, so a failure need not stay.
-/
namespace RecordQuery

/-- The outcome of one operand that decides a connective. -/
def Connective.dominant (op : Connective) : Bool := decide (op = .or)

namespace Predicate

/-- What is left of a connective whose operands are folded. -/
inductive Folds (op : Connective) (a b : Predicate) : Predicate → Prop
  | decided (h : a.constant? = some op.dominant ∨ b.constant? = some op.dominant) :
      Folds op a b (.literal (.boolean op.dominant))
  | second (h : a.constant? = some !op.dominant) : Folds op a b b
  | first (h : b.constant? = some !op.dominant) : Folds op a b a
  | kept (left : a.constant? = none) (right : b.constant? = none) :
      Folds op a b (.logical op a b)

theorem folds_foldLogical (op : Connective) (a b : Predicate) :
    Folds op a b (foldLogical op a b) := by
  unfold foldLogical
  split
  · next h => exact .decided (.inl h)
  · next h _ => exact .decided (.inr h)
  · next h => exact .decided (.inl h)
  · next h _ => exact .decided (.inr h)
  · next h _ => exact .second h
  · next h _ => exact .second h
  · next h _ _ => exact .first h
  · next h _ _ => exact .first h
  · next left right => exact .kept left right

theorem eq_of_constant? {a : Predicate} {x : Bool} (h : a.constant? = some x) :
    a = .literal (.boolean x) := by
  cases a with
  | literal v => cases v <;> simp_all [constant?, Literal.toBool?]
  | _ => simp [constant?] at h

/-- A negated constant becomes a constant; nothing else is lost under a negation. -/
theorem foldNot_eq (a : Predicate) :
    (∃ x, a = .literal (.boolean x) ∧ foldNot a = .literal (.boolean !x)) ∨
      a.constant? = none ∧ foldNot a = .not a := by
  unfold foldNot
  split
  · exact .inl ⟨_, rfl, rfl⟩
  · next hne =>
    refine .inr ⟨?_, rfl⟩
    by_contra h
    obtain ⟨x, hx⟩ := Option.ne_none_iff_exists'.mp h
    exact hne x (eq_of_constant? hx)

/-- No operand of a negation or a connective is a boolean constant, as far as they lie outside of
comparisons and calls. -/
def IsFolded : Predicate → Prop
  | .not a => a.constant? = none ∧ IsFolded a
  | .logical _ a b => (a.constant? = none ∧ IsFolded a) ∧ b.constant? = none ∧ IsFolded b
  | .literal _ | .field _ | .compare .. | .call .. => True

theorem isFolded_of_folds {op : Connective} {a b c : Predicate} (hc : Folds op a b c)
    (ha : a.IsFolded) (hb : b.IsFolded) : c.IsFolded := by
  cases hc with
  | decided => trivial
  | second => exact hb
  | first => exact ha
  | kept left right => exact ⟨⟨left, ha⟩, right, hb⟩

theorem isFolded_foldNot {a : Predicate} (ha : a.IsFolded) : (foldNot a).IsFolded := by
  obtain ⟨x, -, hfold⟩ | ⟨hnone, hfold⟩ := foldNot_eq a
  · rw [hfold]
    trivial
  · rw [hfold]
    exact ⟨hnone, ha⟩

theorem isFolded_fold : ∀ e : Predicate, e.fold.IsFolded
  | .logical op a b =>
    isFolded_of_folds (folds_foldLogical op _ _) (isFolded_fold a) (isFolded_fold b)
  | .not a => isFolded_foldNot (isFolded_fold a)
  | .literal _ | .field _ | .compare .. | .call .. => trivial

end Predicate

namespace Evaluation

open Predicate

variable {style : BooleanStyle} {scope : Json}

theorem connect_eq_ok_iff {op : Connective} {x y : Except Failure Bool} {v : Bool} :
    connect op x y = .ok v ↔
      (x = .ok op.dominant ∧ v = op.dominant) ∨ (x = .ok (!op.dominant) ∧ y = .ok v) := by
  cases x with
  | error e => simp [connect, bind, Except.bind]
  | ok x =>
    by_cases hx : x = op.dominant
    · simp [connect, bind, Except.bind, hx, Connective.dominant, eq_comm]
    · have hn : x = !op.dominant := by
        cases x <;> cases h : op.dominant <;> simp_all
      simp [connect, bind, Except.bind, hn, Connective.dominant]

theorem truth_of_constant? {a : Predicate} {x : Bool} (h : a.constant? = some x) :
    truth style a scope = .ok x := by
  rw [eq_of_constant? h]
  rfl

/-- An operand that is dropped had no say in the outcome. -/
theorem truth_of_folds {op : Connective} {a b c : Predicate} {v : Bool} (hc : Folds op a b c)
    (h : truth style (.logical op a b) scope = .ok v) : truth style c scope = .ok v := by
  have hkept := h
  rw [truth_logical, connect_eq_ok_iff] at h
  cases hc with
  | decided hd =>
    suffices v = op.dominant by rw [this]; rfl
    obtain ⟨-, hv⟩ | ⟨ha, hb⟩ := h
    · exact hv
    · obtain hd | hd := hd
      · have := ha.symm.trans (truth_of_constant? hd)
        simp at this
      · exact Except.ok.inj (hb.symm.trans (truth_of_constant? hd))
  | second hn =>
    obtain ⟨ha, -⟩ | ⟨-, hb⟩ := h
    · have := ha.symm.trans (truth_of_constant? hn)
      simp at this
    · exact hb
  | first hn =>
    obtain ⟨ha, hv⟩ | ⟨ha, hb⟩ := h
    · rw [ha, hv]
    · rw [ha, Except.ok.inj (hb.symm.trans (truth_of_constant? hn))]
  | kept => exact hkept

theorem truth_foldNot {a : Predicate} {x : Bool} (h : truth style a scope = .ok x) :
    truth style (foldNot a) scope = .ok !x := by
  obtain ⟨y, rfl, hfold⟩ | ⟨-, hfold⟩ := foldNot_eq a
  · rw [hfold, ← Except.ok.inj h]
    rfl
  · rw [hfold, truth, h]
    rfl

theorem truth_fold : ∀ (e : Predicate) {v : Bool}, truth style e scope = .ok v →
    truth style e.fold scope = .ok v
  | .logical op a b, v, h => by
    refine truth_of_folds (folds_foldLogical op _ _) ?_
    rw [truth_logical, connect_eq_ok_iff] at h ⊢
    obtain ⟨ha, hv⟩ | ⟨ha, hb⟩ := h
    · exact .inl ⟨truth_fold a ha, hv⟩
    · exact .inr ⟨truth_fold a ha, truth_fold b hb⟩
  | .not a, v, h => by
    rw [truth] at h
    obtain ⟨x, hx, hv⟩ := bind_eq_ok_iff.mp h
    rw [← Except.ok.inj hv]
    exact truth_foldNot (truth_fold a hx)
  | .literal _, _, h | .field _, _, h | .compare .., _, h | .call .., _, h => h

end Evaluation

namespace Clause

open Predicate

theorem Accepted.foldLogical (op : Connective) {a b : Predicate} (ha : Accepted a)
    (hb : Accepted b) : Accepted (foldLogical op a b) := by
  generalize hc : Predicate.foldLogical op a b = c
  have hfolds : Folds op a b c := hc ▸ folds_foldLogical op a b
  cases hfolds with
  | decided => exact .literal _
  | second => exact hb
  | first => exact ha
  | kept => exact .logical op ha hb

theorem Accepted.foldNot {a : Predicate} (ha : Accepted a) : Accepted (foldNot a) := by
  obtain ⟨x, -, hfold⟩ | ⟨-, hfold⟩ := foldNot_eq a
  · rw [hfold]
    exact .literal _
  · rw [hfold]
    exact .not ha

theorem Accepted.fold : ∀ {e : Predicate}, Accepted e → Accepted e.fold
  | .logical op _ _, he =>
    have ⟨left, right⟩ := Accepted.logical_iff.mp he
    left.fold.foldLogical op right.fold
  | .not _, he => (Accepted.not_iff.mp he).fold.foldNot
  | .literal _, he | .field _, he | .compare .., he | .call .., he => he

end Clause

/-- On a record on which a predicate comes out true or false, it comes out the same when it is
folded; if it has a clause, it still has one; and no boolean constant is left to fold. -/
theorem Predicate.fold_keeps (style : BooleanStyle) (e : Predicate) :
    (∀ record b, e.holds style record = .ok b → e.fold.holds style record = .ok b) ∧
      ((∃ clause, e.clause style = .ok clause) → ∃ clause, e.fold.clause style = .ok clause) ∧
      e.fold.IsFolded := by
  refine ⟨?_, ?_, isFolded_fold e⟩
  · intro record b h
    exact Evaluation.truth_fold e h
  · rintro ⟨clause, h⟩
    obtain ⟨text, htext, -⟩ := map_eq_ok_iff.mp h
    exact (Clause.Accepted.of_chars htext).fold.exists_clause style

/-- Constants behind negations decide one connective and vanish from another, and a constant that
has no truth value goes with them. -/
theorem Predicate.fold_keeps_negations :
    let e : Predicate := .logical .or
      (.logical .and (.not (.literal (.boolean true))) (.literal (.string "x")))
      (.logical .and (.compare .eq (.field ⟨["Site", "Id"]⟩) (.literal (.integer 7)))
        (.not (.logical .or (.literal (.boolean false)) (.literal (.boolean false)))))
    let record : Json := .object [("Site", .object [("Id", .number (.integer 7))])]
    let clause := "(not true and 'x') or (Site/Id eq 7 and not (false or false))"
    (e.holds .native record = .ok true ∧ e.fold.holds .native record = .ok true) ∧
      e.clause .native = .ok clause ∧ ∃ folded, e.fold.clause .native = .ok folded := by
  intro e record clause
  have hholds : e.holds .native record = .ok true := by rfl
  have hclause : e.clause .native = .ok clause := by rfl
  exact ⟨⟨hholds, (fold_keeps .native e).1 record true hholds⟩, hclause,
    (fold_keeps .native e).2.1 ⟨clause, hclause⟩⟩

end RecordQuery
