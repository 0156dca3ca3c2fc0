import RecordQuery.Evaluation.Evaluator
import RecordQuery.Proofs.Json.Same

/-!
# Values that agree

Values agree if they are one value or the same by deep equality, which differ only in the sign of
a zero and in what is no number. What agrees has its members, its items and the values of its paths
in agreement.
-/
namespace RecordQuery.Json

inductive Agrees : Json → Json → Prop
  | refl (j : Json) : Agrees j j
  | real {x y : Binary64} (same : x.same y) : Agrees (.number (.real x)) (.number (.real y))
  | array {xs ys : List Json} (same : sameItems xs ys) : Agrees (.array xs) (.array ys)
  | object {xs ys : List (String × Json)} (same : sameMembers xs ys) :
      Agrees (.object xs) (.object ys)

theorem Agrees.of_same {x y : Json} (h : x.same y) : Agrees x y := by
  cases x <;> cases y <;> try contradiction
  case null.null => exact .refl _
  case boolean.boolean a b =>
    obtain rfl : a = b := by simpa [same] using h
    exact .refl _
  case number.number m n =>
    cases m <;> cases n <;> try contradiction
    case integer.integer i j =>
      obtain rfl : i = j := by simpa [same, Number.same] using h
      exact .refl _
    case real.real x y => exact .real h
  case string.string s t =>
    obtain rfl : s = t := by simpa [same] using h
    exact .refl _
  case array.array xs ys => exact .array h
  case object.object xs ys => exact .object h

theorem agrees_iff {x y : Json} : Agrees x y ↔ x = y ∨ x.same y := by
  constructor
  · rintro (_ | same | same | same)
    · exact .inl rfl
    · exact .inr same
    · exact .inr same
    · exact .inr same
  · rintro (rfl | h)
    · exact .refl _
    · exact .of_same h

/-- The value of a path in a scope; a member that is missing reads as null. -/
def valueAt (scope : Json) (p : Path) : Json := (scope.resolvePath? p).getD .null

namespace Agrees

variable {x y : Json}

theorem forall₂_of_sameItems {xs ys : List Json} (h : sameItems xs ys) :
    List.Forall₂ Agrees xs ys := by
  induction xs generalizing ys with
  | nil =>
    cases ys with
    | nil => exact .nil
    | cons y ys => contradiction
  | cons x xs ih =>
    cases ys with
    | nil => contradiction
    | cons y ys =>
      rw [sameItems, Bool.and_eq_true] at h
      exact .cons (of_same h.1) (ih h.2)

theorem rel_lookup {xs ys : List (String × Json)} (h : sameMembers xs ys) (n : String) :
    Option.Rel Agrees (xs.lookup n) (ys.lookup n) := by
  induction xs generalizing ys with
  | nil =>
    cases ys with
    | nil => exact .none
    | cons y ys => contradiction
  | cons x xs ih =>
    cases ys with
    | nil => contradiction
    | cons y ys =>
      simp only [sameMembers, Bool.and_eq_true, decide_eq_true_eq] at h
      obtain ⟨⟨hname, hvalue⟩, hrest⟩ := h
      rw [lookup_cons_ite, lookup_cons_ite, hname]
      split
      · exact .some (of_same hvalue)
      · exact ih hrest

theorem rel_member? (h : Agrees x y) (n : String) :
    Option.Rel Agrees (x.member? n) (y.member? n) := by
  cases h with
  | refl =>
    cases x.member? n with
    | none => exact .none
    | some j => exact .some (.refl j)
  | real | array => exact .none
  | object same => exact rel_lookup same n

theorem rel_resolve? (h : Agrees x y) (names : List String) :
    Option.Rel Agrees (resolve? names x) (resolve? names y) := by
  induction names generalizing x y with
  | nil => exact .some h
  | cons n rest ih =>
    have hmember := h.rel_member? n
    rw [resolve?, resolve?]
    cases hx : x.member? n <;> cases hy : y.member? n <;> rw [hx, hy] at hmember <;>
      cases hmember
    case none.none => exact .none
    case some.some hvalue => exact ih hvalue

theorem valueAt (h : Agrees x y) (p : Path) : Agrees (x.valueAt p) (y.valueAt p) := by
  have hrel := h.rel_resolve? p.segments
  unfold Json.valueAt resolvePath?
  cases hx : resolve? p.segments x <;> cases hy : resolve? p.segments y <;> rw [hx, hy] at hrel <;>
    cases hrel
  case none.none => exact .refl _
  case some.some hvalue => exact hvalue

end Agrees

end RecordQuery.Json
