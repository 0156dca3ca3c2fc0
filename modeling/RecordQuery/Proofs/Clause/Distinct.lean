import RecordQuery.Clause.Printer
import RecordQuery.Proofs.Number.Order

/-!
# The different values of a list

Leaving out values that are the same as an earlier one loses nothing that a test of single values
could see.
-/
namespace RecordQuery

theorem Literal.same_comm (u v : Literal) : u.same v = v.same u := by
  cases u with
  | real x =>
    cases v with
    | real y => exact Binary64.same_comm x y
    | _ => rfl
  | _ => cases v <;> simp [same, eq_comm]

namespace Clause

/-- A value stays if it is not the same as one that stayed before it. -/
theorem distinct_eq_eraseDupsBy (vs : List Literal) :
    distinct vs = vs.eraseDupsBy Literal.same := by
  have hfold (kept : List Literal) :
      vs.foldl addDistinct kept.reverse = List.eraseDupsBy.loop Literal.same vs kept := by
    induction vs generalizing kept with
    | nil => rfl
    | cons v vs ih =>
      have hsame : kept.reverse.any (·.same v) = kept.any (v.same ·) := by
        simp only [List.any_reverse, Literal.same_comm v]
      rw [List.foldl_cons, List.eraseDupsBy.loop, addDistinct, hsame]
      cases kept.any (v.same ·) with
      | true => exact ih kept
      | false => simpa using ih (v :: kept)
  exact hfold []

theorem mem_addDistinct {seen : List Literal} {u v : Literal} (h : v ∈ addDistinct seen u) :
    v ∈ seen ∨ v = u := by
  unfold addDistinct at h
  split at h
  · exact .inl h
  · simpa using h

theorem mem_foldl_addDistinct {v : Literal} {vs seen : List Literal}
    (h : v ∈ vs.foldl addDistinct seen) : v ∈ seen ∨ v ∈ vs := by
  induction vs generalizing seen with
  | nil => exact .inl h
  | cons u us ih =>
    rcases ih h with h | h
    · exact (mem_addDistinct h).imp id (by rintro rfl; simp)
    · exact .inr (List.mem_cons_of_mem _ h)

theorem mem_of_mem_distinct {v : Literal} {vs : List Literal} (h : v ∈ distinct vs) : v ∈ vs := by
  simpa using mem_foldl_addDistinct h

section Tests

variable {test : Literal → Bool} (same : ∀ u v : Literal, u.same v → test u = test v)

include same in
theorem any_addDistinct (seen : List Literal) (v : Literal) :
    (addDistinct seen v).any test = (seen.any test || test v) := by
  unfold addDistinct
  split
  · next h =>
    obtain ⟨u, hu, huv⟩ := List.any_eq_true.mp h
    rw [← same u v huv]
    cases htest : test u with
    | false => simp
    | true => simp [List.any_eq_true.mpr ⟨u, hu, htest⟩]
  · simp

include same in
theorem any_distinct (vs : List Literal) : (distinct vs).any test = vs.any test := by
  have hfold (seen : List Literal) :
      (vs.foldl addDistinct seen).any test = (seen.any test || vs.any test) := by
    induction vs generalizing seen with
    | nil => simp
    | cons v vs ih => rw [List.foldl_cons, ih, any_addDistinct same, List.any_cons, Bool.or_assoc]
  simpa [distinct] using hfold []

end Tests

end Clause

end RecordQuery
