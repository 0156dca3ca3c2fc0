import RecordQuery.Proofs.Clause.Constant
import RecordQuery.Proofs.Clause.Reading
import RecordQuery.Proofs.Evaluation.Membership

/-!
# A clause determines the selection

Predicates with one clause come out alike on every record. The clause gives back the predicate up
to the brackets of its chains and to membership tests that are written out, and neither of these
changes an outcome.
-/
namespace RecordQuery

namespace Predicate

/-- All paths and type names are made of identifiers, and no constant is a real number. -/
def IsPlain (e : Predicate) : Prop :=
  e.Each Path.IsNamed fun v => v.IsDotted ∧ v.isReal = false

instance : DecidablePred IsPlain := fun e => inferInstanceAs (Decidable (e.Each _ _))

theorem IsPlain.isDotted {e : Predicate} (h : e.IsPlain) :
    e.Each Path.IsNamed Literal.IsDotted :=
  h.imp (fun _ => id) fun _ => And.left

end Predicate

namespace Clause

theorem expression_oneOf (p : Path) (vs : List Literal) :
    expression .native ((Predicate.field p).oneOf vs) = alternatives .native p.chars vs := by
  cases vs with
  | nil => rfl
  | cons v vs =>
    exact (List.foldl_hom (expression .native) fun e v => rfl).symm

theorem expression_expand {e : Predicate} (he : Accepted e) :
    expression .native e.expand = expression .native e := by
  induction he with
  | logical op _ _ iha ihb => rw [Predicate.expand, expression, iha, ihb, expression]
  | not _ ih => rw [Predicate.expand, expression, ih, expression]
  | inList named vs => rw [Predicate.expand_inList, expression_oneOf, expression_inList]
  | @text t isText p named s => cases t <;> rfl
  | _ => rfl

theorem operand_inj {a b : Predicate} (ha : IsOperand a) (hb : IsOperand b) (hpa : a.IsPlain)
    (hpb : b.IsPlain) (h : expression .native a = expression .native b) : a = b := by
  cases ha with
  | literal v =>
    cases hb with
    | literal w =>
      rw [token_inj hpa.1 hpb.1 hpa.2 hpb.2 (Expression.constant.inj h)]
    | field => contradiction
  | field named =>
    cases hb with
    | literal => contradiction
    | field named' => rw [chars_inj hpa hpb named named' (Expression.member.inj h)]

theorem functionName_inj {t t' : Test} (h : functionName t = functionName t') : t = t' := by
  cases t <;> cases t' <;> first | rfl | simp [functionName, Test.name] at h

/-- A predicate without membership tests is given back by what it says. -/
theorem expression_inj {a b : Predicate} (ha : Accepted a) (hb : Accepted b)
    (hae : a.isExpanded) (hbe : b.isExpanded) (hpa : a.IsPlain) (hpb : b.IsPlain)
    (h : expression .native a = expression .native b) : a = b := by
  induction ha generalizing b with
  | literal v =>
    cases hb with
    | literal w => exact operand_inj (.literal v) (.literal w) hpa hpb h
    | text isText =>
      rw [expression_text isText] at h
      cases h
    | inList => contradiction
    | _ => cases h
  | field named =>
    cases hb with
    | field named' => exact operand_inj (.field named) (.field named') hpa hpb h
    | text isText =>
      rw [expression_text isText] at h
      cases h
    | inList => contradiction
    | _ => cases h
  | compare op left right =>
    cases hb with
    | compare op' left' right' =>
      obtain ⟨hop, ha, hb⟩ := Expression.binary.inj h
      rw [Operator.comparison.inj hop, operand_inj left left' hpa.1 hpb.1 ha,
        operand_inj right right' hpa.2 hpb.2 hb]
    | text isText =>
      rw [expression_text isText] at h
      cases h
    | inList => contradiction
    | _ => cases h
  | logical op left right iha ihb =>
    cases hb with
    | logical op' left' right' =>
      rw [Predicate.isExpanded, Bool.and_eq_true] at hae hbe
      obtain ⟨hop, ha, hb⟩ := Expression.binary.inj h
      rw [Operator.connective.inj hop, iha left' hae.1 hbe.1 hpa.1 hpb.1 ha,
        ihb right' hae.2 hbe.2 hpa.2 hpb.2 hb]
    | text isText =>
      rw [expression_text isText] at h
      cases h
    | inList => contradiction
    | _ => cases h
  | not operand ih =>
    cases hb with
    | not operand' => rw [ih operand' hae hbe hpa hpb (Expression.not.inj h)]
    | text isText =>
      rw [expression_text isText] at h
      cases h
    | inList => contradiction
    | _ => cases h
  | text isText named s =>
    rw [expression_text isText] at h
    cases hb with
    | text isText' named' s' =>
      rw [expression_text isText'] at h
      obtain ⟨hname, hmember, hconstant⟩ := Expression.function.inj h
      have ht := functionName_inj (String.toList_inj.mp hname)
      have hp := chars_inj hpa.1 hpb.1 named named' (Expression.member.inj hmember)
      obtain ⟨-, hs⟩ := Token.quoted.inj (Expression.constant.inj hconstant)
      rw [ht, hp, String.toList_inj.mp hs]
    | inList => contradiction
    | _ => cases h
  | any named =>
    cases hb with
    | any named' => rw [chars_inj hpa.1 hpb.1 named named' (Expression.any.inj h)]
    | text isText =>
      rw [expression_text isText] at h
      cases h
    | inList => contradiction
    | _ => cases h
  | anyMatch named v =>
    cases hb with
    | anyMatch named' w =>
      obtain ⟨hmember, -, hcondition⟩ := Expression.anyWhere.inj h
      obtain ⟨-, -, hconstant⟩ := Expression.binary.inj hcondition
      obtain ⟨hdotted, hreal⟩ := hpa.2.1
      obtain ⟨hdotted', hreal'⟩ := hpb.2.1
      rw [chars_inj hpa.1 hpb.1 named named' hmember,
        token_inj hdotted hdotted' hreal hreal' (Expression.constant.inj hconstant)]
    | text isText =>
      rw [expression_text isText] at h
      cases h
    | inList => contradiction
    | _ => cases h
  | inList => contradiction

theorem Accepted.of_clause {style : BooleanStyle} {e : Predicate} {clause : String}
    (h : e.clause style = .ok clause) : Accepted e := by
  obtain ⟨_, ht, -⟩ := map_eq_ok_iff.mp h
  exact .of_chars ht

/-- One clause leaves one predicate, with brackets moved and membership tests written out. -/
theorem expand_leftward_eq {e e' : Predicate} (he : e.IsPlain) (he' : e'.IsPlain)
    {clause : String} (h : e.clause .native = .ok clause) (h' : e'.clause .native = .ok clause) :
    e.leftward.expand = e'.leftward.expand := by
  have ha := (Accepted.of_clause h).leftward
  have ha' := (Accepted.of_clause h').leftward
  have hstyle : BooleanStyle.native.IsDotted := trivial
  have hreading := isReading_leftward hstyle he.isDotted h
  have hreading' := isReading_leftward hstyle he'.isDotted h'
  have hexpression :
      expression .native e.leftward.expand = expression .native e'.leftward.expand := by
    rw [expression_expand ha, expression_expand ha']
    exact hreading.unique hreading'
  have hplain {e : Predicate} (he : e.IsPlain) : e.leftward.expand.IsPlain :=
    Predicate.Each.expand ⟨trivial, rfl⟩ ((Predicate.each_leftward e).mpr he)
  exact expression_inj ha.expand ha'.expand (isExpanded_expand _) (isExpanded_expand _)
    (hplain he) (hplain he') hexpression

end Clause

/-- Predicates with one clause hold of the same records and fail alike on the others. -/
theorem Predicate.holds_eq_of_clause_eq {e e' : Predicate} (he : e.IsPlain) (he' : e'.IsPlain)
    {clause : String} (h : e.clause .native = .ok clause) (h' : e'.clause .native = .ok clause)
    (record : Json) : e.holds .native record = e'.holds .native record := by
  have hsame (e : Predicate) (h : e.clause .native = .ok clause) :
      Evaluation.truth .native e.leftward.expand record = e.holds .native record := by
    rw [Evaluation.truth_expand _ _ (Clause.Accepted.of_clause h).leftward,
      Evaluation.truth_leftward, holds]
  rw [← hsame e h, ← hsame e' h', Clause.expand_leftward_eq he he' h h']

theorem Predicate.holds_eq_of_clause_eq_membership :
    let listed : Predicate := .logical .and
      (.inList (.field ⟨["Rank"]⟩) [.integer 1, .null, .integer 1]) (.field ⟨["Open"]⟩)
    let written : Predicate := .logical .and
      (.logical .or ((Predicate.field ⟨["Rank"]⟩).equals (.integer 1))
        (.isNull (.field ⟨["Rank"]⟩))) (.field ⟨["Open"]⟩)
    let clause := "(Rank eq 1 or Rank eq null) and Open"
    listed.clause .native = .ok clause ∧ written.clause .native = .ok clause ∧
      ∀ record, listed.holds .native record = written.holds .native record := by
  intro listed written clause
  have hlisted : listed.clause .native = .ok clause := by rfl
  have hwritten : written.clause .native = .ok clause := by rfl
  exact ⟨hlisted, hwritten,
    holds_eq_of_clause_eq (by decide) (by decide) hlisted hwritten⟩

end RecordQuery
