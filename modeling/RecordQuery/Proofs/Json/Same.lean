import RecordQuery.Proofs.Json.Members
import RecordQuery.Proofs.Number.Order

/-!
# Values that are the same

Deep equality does not depend on which value stands first, and two values that are the same as a
third are the same. Values that are the same have the same members, item for item.
-/
namespace RecordQuery

namespace Number

theorem same_comm : ∀ m n : Number, m.same n = n.same m
  | .integer _, .integer _ => by simp [same, eq_comm]
  | .real x, .real y => Binary64.same_comm x y
  | .integer _, .real _ | .real _, .integer _ => rfl

theorem same_trans : ∀ {k m n : Number}, k.same m → m.same n → k.same n
  | .integer i, .integer j, .integer k, h, h' => by
    simp only [same, decide_eq_true_eq] at h h' ⊢
    exact h.trans h'
  | .real _, .real _, .real _, h, h' => Binary64.same_trans h h'

end Number

namespace Json

mutual

theorem same_comm : ∀ x y : Json, x.same y = y.same x
  | .null, y => by cases y <;> rfl
  | .boolean a, y => by cases y <;> simp [same, eq_comm]
  | .number m, y => by
    cases y with
    | number n => exact Number.same_comm m n
    | _ => rfl
  | .string s, y => by cases y <;> simp [same, eq_comm]
  | .array xs, y => by
    cases y with
    | array ys => exact sameItems_comm xs ys
    | _ => rfl
  | .object xs, y => by
    cases y with
    | object ys => exact sameMembers_comm xs ys
    | _ => rfl

theorem sameItems_comm : ∀ xs ys : List Json, sameItems xs ys = sameItems ys xs
  | [], [] | [], _ :: _ | _ :: _, [] => rfl
  | x :: xs, y :: ys => by rw [sameItems, sameItems, same_comm x y, sameItems_comm xs ys]

theorem sameMembers_comm : ∀ xs ys : List (String × Json), sameMembers xs ys = sameMembers ys xs
  | [], [] | [], _ :: _ | _ :: _, [] => rfl
  | (m, x) :: xs, (n, y) :: ys => by
    simp only [sameMembers, same_comm x y, sameMembers_comm xs ys, eq_comm]

end

mutual

theorem same_trans : ∀ {x y z : Json}, x.same y → y.same z → x.same z
  | .null, .null, .null, _, _ => rfl
  | .boolean a, .boolean b, .boolean c, h, h' => by
    simp only [same, decide_eq_true_eq] at h h' ⊢
    exact h.trans h'
  | .number _, .number _, .number _, h, h' => Number.same_trans h h'
  | .string s, .string t, .string u, h, h' => by
    simp only [same, decide_eq_true_eq] at h h' ⊢
    exact h.trans h'
  | .array _, .array _, .array _, h, h' => sameItems_trans h h'
  | .object _, .object _, .object _, h, h' => sameMembers_trans h h'

theorem sameItems_trans : ∀ {xs ys zs : List Json}, sameItems xs ys → sameItems ys zs →
    sameItems xs zs
  | [], [], [], _, _ => rfl
  | x :: xs, y :: ys, z :: zs, h, h' => by
    rw [sameItems, Bool.and_eq_true] at h h' ⊢
    exact ⟨same_trans h.1 h'.1, sameItems_trans h.2 h'.2⟩

theorem sameMembers_trans : ∀ {xs ys zs : List (String × Json)}, sameMembers xs ys →
    sameMembers ys zs → sameMembers xs zs
  | [], [], [], _, _ => rfl
  | (l, x) :: xs, (m, y) :: ys, (n, z) :: zs, h, h' => by
    simp only [sameMembers, Bool.and_eq_true, decide_eq_true_eq] at h h' ⊢
    exact ⟨⟨h.1.1.trans h'.1.1, same_trans h.1.2 h'.1.2⟩, sameMembers_trans h.2 h'.2⟩

end

end Json

end RecordQuery
