import RecordQuery.Proofs.Evaluation.Membership
import RecordQuery.Proofs.Predicate.Bracketing

/-!
# Collection tests written out

The tests of members and collections say what simpler predicates say: a membership test, that one
of the values is the member's, and a collection test for a value or for any element, that some
element fulfils a condition.
-/
namespace RecordQuery

namespace Predicate

theorem Bracketed.foldl_equals {target : Predicate} {es : List Predicate} {e : Predicate}
    (h : Bracketed .or es e) (vs : List Literal) :
    Bracketed .or (es ++ vs.map target.equals)
      (vs.foldl (fun e v => .logical .or e (target.equals v)) e) := by
  induction vs generalizing es e with
  | nil => simpa using h
  | cons v vs ih =>
    have hnext := ih (h.pair (.one (target.equals v)))
    rwa [List.append_assoc] at hnext

/-- The alternatives of a list are its equations in a row. -/
theorem bracketed_oneOf (target : Predicate) (v : Literal) (vs : List Literal) :
    Bracketed .or ((v :: vs).map target.equals) (target.oneOf (v :: vs)) :=
  Bracketed.foldl_equals (.one (target.equals v)) vs

end Predicate

open Predicate

namespace Clause

theorem ofList_parenthesized (text : List Char) :
    String.ofList (parenthesized text) = "(" ++ String.ofList text ++ ")" := by
  simp [parenthesized, String.append_assoc]

variable {style : BooleanStyle} {p : Path} (named : p.isCurrent = false)

include named

theorem chars_equals (parent : Option Connective) (v : Literal) :
    chars style parent ((Predicate.field p).equals v) = .ok (equation style p.chars v) :=
  chars_compare (.field named) (.literal v)

theorem row_equals (op : Connective) (vs : List Literal) :
    row style op (vs.map (Predicate.field p).equals) =
      .ok ((tokenChars op.token).intercalate (vs.map (equation style p.chars))) := by
  have htexts : chars style (some op) ∘ (Predicate.field p).equals =
      fun v => pure (equation style p.chars v) := funext (chars_equals named (some op))
  rw [row, List.mapM_map, htexts, List.mapM_pure]
  rfl

/-- No alternative is put in parentheses, and neither are all of them together. -/
theorem chars_oneOf (v : Literal) (vs : List Literal) :
    chars style none ((Predicate.field p).oneOf (v :: vs)) =
      .ok ((tokenChars "or").intercalate ((v :: vs).map (equation style p.chars))) := by
  have hparent : chars style none ((Predicate.field p).oneOf (v :: vs)) =
      chars style (some .or) ((Predicate.field p).oneOf (v :: vs)) :=
    oneOf_induction (P := fun e => chars style none e = chars style (some .or) e) rfl
      (fun _ _ => rfl) fun _ _ _ _ => by simp [chars]
  rw [hparent, chars_some_of_bracketed (bracketed_oneOf _ v vs), row_equals named]
  rfl

end Clause

namespace Evaluation

theorem someElement_ok (test : Json → Bool) (items : List Json) :
    someElement (fun item => .ok (test item)) items = .ok (items.any test) := by
  induction items with
  | nil => rfl
  | cons item items ih =>
    rw [someElement, ih, List.any_cons]
    cases test item <;> rfl

variable (style : BooleanStyle) (scope : Json) (p : Path)

theorem truth_anyMatch (v : Literal) :
    truth style (.anyMatch (.field p) v) scope =
      truth style (.anyWhere (.field p) (Predicate.element.equals v)) scope := by
  rw [Predicate.anyMatch, Predicate.anyWhere, truth_constants (by decide), truth_any]
  cases scope.valueAt p with
  | array items => exact (someElement_ok _ items).symm
  | _ => rfl

theorem truth_any_empty :
    truth style (.any (.field p)) scope =
      truth style (.anyWhere (.field p) (.literal (.boolean true))) scope := by
  rw [Predicate.any, Predicate.anyWhere, truth_any, truth_any]
  cases scope.valueAt p with
  | array items =>
    refine Eq.trans ?_ (someElement_ok (fun _ => true) items).symm
    cases items <;> rfl
  | _ => rfl

end Evaluation

/-- A membership test says on every record that the member equals one of the different values, in
the order in which they appear first, and has the text of that: `false` for no value, the equation
for one, and the alternatives in parentheses for more. A collection test for a value is one for an
element that equals it, and one without a condition is one with a condition that always holds. -/
theorem Predicate.collections_written_out (style : BooleanStyle) (p : Path) (v : Literal)
    (vs : List Literal) :
    (∀ record,
      (inList (.field p) vs).holds style record =
        ((Predicate.field p).oneOf (vs.eraseDupsBy Literal.same)).holds style record ∧
      (anyMatch (.field p) v).holds style record =
        (anyWhere (.field p) (element.equals v)).holds style record ∧
      (any (.field p)).holds style record =
        (anyWhere (.field p) (.literal (.boolean true))).holds style record) ∧
      (p.isCurrent = false →
        match vs.eraseDupsBy Literal.same with
        | [] => (inList (.field p) vs).clause style = .ok "false"
        | [u] => ∃ text, ((Predicate.field p).equals u).clause style = .ok text ∧
            (inList (.field p) vs).clause style = .ok text
        | us => ∃ text, ((Predicate.field p).oneOf us).clause style = .ok text ∧
            (inList (.field p) vs).clause style = .ok ("(" ++ text ++ ")")) := by
  rw [← Clause.distinct_eq_eraseDupsBy]
  refine ⟨fun record => ⟨?_, Evaluation.truth_anyMatch .., Evaluation.truth_any_empty ..⟩, ?_⟩
  · rw [holds, holds, Evaluation.truth_inList, Evaluation.truth_oneOf]
    exact congrArg _ (Clause.any_distinct (fun _ _ => Operand.equal_congr style _) vs).symm
  · intro named
    rw [clause, Clause.chars_inList named]
    match Clause.distinct vs with
    | [] => rfl
    | [u] => exact ⟨_, congrArg (Except.map String.ofList) (Clause.chars_equals named none u), rfl⟩
    | u :: w :: us =>
      exact ⟨_, congrArg (Except.map String.ofList) (Clause.chars_oneOf named u (w :: us)),
        congrArg Except.ok (Clause.ofList_parenthesized _)⟩

/-- An equal number and a zero of the other sign go, but what is no number stays beside itself. -/
theorem Predicate.collections_written_out_numbers :
    let p : Path := ⟨["Site", "Rank"]⟩
    let vs : List Literal :=
      [.integer 7, .real .nan, .integer 7, .real .zero, .real .nan, .real (.neg .zero)]
    let us : List Literal := [.integer 7, .real .nan, .real .zero, .real .nan]
    let record : Json := .object [("Site", .object [("Rank", .number (.integer 7))])]
    p.isCurrent = false ∧ vs.eraseDupsBy Literal.same = us ∧
      (inList (.field p) vs).holds .native record = .ok true ∧
      ∃ text, ((Predicate.field p).oneOf us).clause .native = .ok text ∧
        (inList (.field p) vs).clause .native = .ok ("(" ++ text ++ ")") := by
  intro p vs us record
  have hp : p.isCurrent = false := by rfl
  have hus : vs.eraseDupsBy Literal.same = us := by decide
  obtain ⟨htruth, htext⟩ := collections_written_out .native p .null vs
  simp only [hus] at htruth htext
  exact ⟨hp, hus, (htruth record).1.trans (by rfl), htext hp⟩

end RecordQuery
