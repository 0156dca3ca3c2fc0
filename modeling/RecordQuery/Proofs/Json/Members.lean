import Mathlib
import RecordQuery.Json.Reader

/-!
# Members of objects

The members of an object are a finite map: a name has one value, and two objects are the same if
they have the same values under the same names. Every value that is read keeps its members in the
order of their names, and that order is what makes the list of members the map.
-/
namespace RecordQuery.Json

/-- In the strict order of the names, so that no name comes twice. -/
def InOrder (members : List (String × Json)) : Prop := members.Pairwise fun m m' => m.1 < m'.1

instance (members : List (String × Json)) : Decidable (InOrder members) :=
  inferInstanceAs (Decidable (members.Pairwise _))

inductive IsOrdered : Json → Prop
  | null : IsOrdered .null
  | boolean (b : Bool) : IsOrdered (.boolean b)
  | number (n : Number) : IsOrdered (.number n)
  | string (s : String) : IsOrdered (.string s)
  | array {items : List Json} (items_ordered : ∀ j ∈ items, IsOrdered j) :
      IsOrdered (.array items)
  | object {members : List (String × Json)} (inOrder : InOrder members)
      (values_ordered : ∀ m ∈ members, IsOrdered m.2) : IsOrdered (.object members)

variable {name : String} {value : Json} {members : List (String × Json)}

theorem mem_insertMember {m : String × Json} (h : m ∈ insertMember name value members) :
    m = (name, value) ∨ m ∈ members := by
  induction members with
  | nil => simpa [insertMember] using h
  | cons first rest ih =>
    unfold insertMember at h
    split at h
    · simpa using h
    · split at h
      · rcases List.mem_cons.mp h with h | h
        · exact .inl h
        · exact .inr (List.mem_cons_of_mem _ h)
      · rcases List.mem_cons.mp h with rfl | h
        · exact .inr List.mem_cons_self
        · exact (ih h).imp_right (List.mem_cons_of_mem _)

theorem lookup_cons_ite {α : Type} (n m : String) (v : α) (rest : List (String × α)) :
    ((m, v) :: rest).lookup n = if n = m then some v else rest.lookup n := by
  by_cases h : n = m
  · simp [h]
  · rw [List.lookup_cons, beq_false_of_ne h, if_neg h]

theorem lookup_filter_ne (members : List (String × Json)) (name n : String) :
    (members.filter (·.1 ≠ name)).lookup n = if n = name then none else members.lookup n := by
  induction members with
  | nil => simp
  | cons m rest ih =>
    obtain ⟨m, v⟩ := m
    rw [List.filter_cons]
    split
    · simp only [lookup_cons_ite, ih]
      grind
    · simp only [lookup_cons_ite, ih]
      grind

theorem lookup_insertMember (name n : String) (value : Json) (members : List (String × Json)) :
    (insertMember name value members).lookup n =
      if n = name then some value else members.lookup n := by
  induction members with
  | nil => simp only [insertMember, lookup_cons_ite]
  | cons first rest ih =>
    obtain ⟨first, v⟩ := first
    unfold insertMember
    split
    · simp only [lookup_cons_ite]
    · split
      · next heq =>
        subst heq
        simp only [lookup_cons_ite]
        split <;> rfl
      · next hne =>
        simp only [lookup_cons_ite, ih]
        split
        · next heq => rw [if_neg (heq ▸ Ne.symm hne)]
        · rfl

theorem InOrder.insertMember (h : InOrder members) : InOrder (insertMember name value members) := by
  induction members with
  | nil => simp [Json.insertMember, InOrder]
  | cons first rest ih =>
    obtain ⟨hfirst, hrest⟩ := List.pairwise_cons.mp h
    unfold Json.insertMember
    split
    · next hlt =>
      refine List.pairwise_cons.mpr ⟨fun m hm => ?_, h⟩
      rcases List.mem_cons.mp hm with rfl | hm
      · exact hlt
      · exact hlt.trans (hfirst m hm)
    · split
      · next heq => exact List.pairwise_cons.mpr ⟨fun m hm => heq ▸ hfirst m hm, hrest⟩
      · next hlt hne =>
        refine List.pairwise_cons.mpr ⟨fun m hm => ?_, ih hrest⟩
        rcases mem_insertMember hm with rfl | hm
        · exact lt_of_le_of_ne (not_lt.mp hlt) (Ne.symm hne)
        · exact hfirst m hm

/-- What is put in last comes to be found first. -/
theorem lookup_foldl_insertMember (added members : List (String × Json)) (n : String) :
    (added.foldl (fun ms m => insertMember m.1 m.2 ms) members).lookup n =
      (added.reverse.lookup n).or (members.lookup n) := by
  induction added generalizing members with
  | nil => rfl
  | cons m added ih =>
    have hm : [m].lookup n = if n = m.1 then some m.2 else none := lookup_cons_ite n m.1 m.2 []
    rw [List.foldl_cons, ih, lookup_insertMember, List.reverse_cons, List.lookup_append, hm,
      Option.or_assoc]
    split <;> simp

theorem mem_foldl_insertMember {m : String × Json} {added : List (String × Json)}
    (h : m ∈ added.foldl (fun ms m => insertMember m.1 m.2 ms) members) :
    m ∈ added ∨ m ∈ members := by
  induction added generalizing members with
  | nil => exact .inr h
  | cons first added ih =>
    rcases ih h with h | h
    · exact .inl (List.mem_cons_of_mem _ h)
    · rcases mem_insertMember h with rfl | h
      · exact .inl List.mem_cons_self
      · exact .inr h

theorem InOrder.foldl_insertMember {added : List (String × Json)} (h : InOrder members) :
    InOrder (added.foldl (fun ms m => Json.insertMember m.1 m.2 ms) members) := by
  induction added generalizing members with
  | nil => exact h
  | cons m added ih => exact ih h.insertMember

theorem isOrdered_ofMembers (h : ∀ m ∈ members, m.2.IsOrdered) : (ofMembers members).IsOrdered := by
  refine .object (InOrder.foldl_insertMember List.Pairwise.nil) fun m hm => ?_
  rcases mem_foldl_insertMember hm with hm | hm
  · exact h m hm
  · simp at hm

section Lookup

/-- Where no name comes twice, to find a value is to be a member. -/
theorem lookup_eq_some_iff_mem (h : members.Pairwise fun m m' => m.1 ≠ m'.1) {n : String}
    {v : Json} : members.lookup n = some v ↔ (n, v) ∈ members := by
  induction members with
  | nil => simp
  | cons first rest ih =>
    obtain ⟨hfirst, hrest⟩ := List.pairwise_cons.mp h
    obtain ⟨first, w⟩ := first
    rw [lookup_cons_ite]
    split
    · next heq =>
      subst heq
      have hnot : (n, v) ∉ rest := fun hm => hfirst _ hm rfl
      simp [hnot, eq_comm]
    · next hne => simp [hne, ih hrest]

theorem InOrder.distinct (h : InOrder members) : members.Pairwise fun m m' => m.1 ≠ m'.1 :=
  h.imp fun hlt => hlt.ne

theorem InOrder.lookup_iff (h : InOrder members) {n : String} {v : Json} :
    members.lookup n = some v ↔ (n, v) ∈ members := lookup_eq_some_iff_mem h.distinct

/-- Of members with distinct names each one is found. -/
theorem member?_ofMembers (h : members.Pairwise fun m m' => m.1 ≠ m'.1) {n : String} {v : Json} :
    member? n (ofMembers members) = some v ↔ (n, v) ∈ members := by
  have hreverse : members.reverse.Pairwise fun m m' => m.1 ≠ m'.1 :=
    List.pairwise_reverse.mpr (h.imp Ne.symm)
  rw [ofMembers, member?, lookup_foldl_insertMember, List.lookup_nil, Option.or_none,
    lookup_eq_some_iff_mem hreverse, List.mem_reverse]

theorem lookup_eq_none_of_lt {n : String} (h : ∀ m ∈ members, n < m.1) :
    members.lookup n = none := by
  rw [List.lookup_eq_none_iff]
  intro m hm
  simpa using (h m hm).ne

/-- A name in front of the first one is not found. -/
theorem InOrder.lookup_of_lt {m n : String} {v : Json} (h : InOrder ((n, v) :: members))
    (hlt : m < n) : ((n, v) :: members).lookup m = none := by
  refine lookup_eq_none_of_lt fun p hp => ?_
  rcases List.mem_cons.mp hp with rfl | hp
  · exact hlt
  · exact hlt.trans (List.rel_of_pairwise_cons h hp)

end Lookup

/-- Two objects are the same if the same values are found in them. -/
theorem sameMembers_iff {xs ys : List (String × Json)} (hx : InOrder xs) (hy : InOrder ys) :
    sameMembers xs ys ↔
      ∀ n, Option.Rel (fun x y => same x y = true) (xs.lookup n) (ys.lookup n) := by
  induction xs generalizing ys with
  | nil =>
    cases ys with
    | nil => simp [sameMembers]
    | cons y ys =>
      simp only [sameMembers, Bool.false_eq_true, false_iff, not_forall]
      exact ⟨y.1, by rw [lookup_cons_ite, if_pos rfl]; exact Option.not_rel_none_some⟩
  | cons x xs ih =>
    cases ys with
    | nil =>
      simp only [sameMembers, Bool.false_eq_true, false_iff, not_forall]
      exact ⟨x.1, by rw [lookup_cons_ite, if_pos rfl]; exact Option.not_rel_some_none⟩
    | cons y ys =>
      obtain ⟨m, x⟩ := x
      obtain ⟨n, y⟩ := y
      obtain ⟨hxfirst, hxs⟩ := List.pairwise_cons.mp hx
      obtain ⟨hyfirst, hys⟩ := List.pairwise_cons.mp hy
      simp only [sameMembers, Bool.and_eq_true, decide_eq_true_eq, ih hxs hys]
      constructor
      · rintro ⟨⟨rfl, hxy⟩, hrest⟩ k
        rw [lookup_cons_ite, lookup_cons_ite]
        split
        · exact .some hxy
        · exact hrest k
      · intro h
        -- the smaller of two different first names is found in one object only
        rcases lt_trichotomy m n with hlt | rfl | hgt
        · have hm := h m
          rw [hy.lookup_of_lt hlt, lookup_cons_ite, if_pos rfl] at hm
          exact absurd hm Option.not_rel_some_none
        · refine ⟨⟨rfl, ?_⟩, fun k => ?_⟩
          · simpa [lookup_cons_ite] using h m
          · by_cases hk : k = m
            · rw [hk, lookup_eq_none_of_lt hxfirst, lookup_eq_none_of_lt hyfirst]
              exact .none
            · simpa [lookup_cons_ite, hk] using h k
        · have hn := h n
          rw [hx.lookup_of_lt hgt, lookup_cons_ite, if_pos rfl] at hn
          exact absurd hn Option.not_rel_none_some

section Reading

open Syntax (Piece Tree)

mutual

/-- What is decoded keeps its members in order. -/
theorem isOrdered_of_decode? : ∀ {depth : Nat} {t : Tree} {j : Json}, decode? depth t = some j →
    j.IsOrdered
  | _, .null, j, h => by
    rw [decode?] at h
    obtain rfl := Option.some.inj h
    exact .null
  | _, .boolean b, j, h => by
    rw [decode?] at h
    obtain rfl := Option.some.inj h
    exact .boolean b
  | _, .number n, j, h => by
    obtain ⟨x, -, rfl⟩ := Option.map_eq_some_iff.mp h
    exact .number x
  | _, .string pieces, j, h => by
    obtain ⟨s, -, rfl⟩ := Option.map_eq_some_iff.mp h
    exact .string _
  | depth, .array items, j, h => by
    rw [decode?] at h
    split at h
    · contradiction
    · obtain ⟨js, hjs, rfl⟩ := Option.map_eq_some_iff.mp h
      exact .array (isOrdered_of_decodeItems? hjs)
  | depth, .object members, j, h => by
    rw [decode?] at h
    split at h
    · contradiction
    · obtain ⟨ms, hms, rfl⟩ := Option.map_eq_some_iff.mp h
      exact isOrdered_ofMembers (isOrdered_of_decodeMembers? hms)

theorem isOrdered_of_decodeItems? : ∀ {depth : Nat} {ts : List Tree} {js : List Json},
    decodeItems? depth ts = some js → ∀ j ∈ js, j.IsOrdered
  | _, [], js, h => by
    rw [decodeItems?] at h
    simp [← Option.some.inj h]
  | depth, t :: ts, js, h => by
    obtain ⟨first, hfirst, h⟩ := Option.bind_eq_some_iff.mp h
    obtain ⟨rest, hrest, h⟩ := Option.bind_eq_some_iff.mp h
    obtain rfl : first :: rest = js := Option.some.inj h
    exact List.forall_mem_cons.mpr
      ⟨isOrdered_of_decode? hfirst, isOrdered_of_decodeItems? hrest⟩

theorem isOrdered_of_decodeMembers? : ∀ {depth : Nat} {ts : List (List Piece × Tree)}
    {members : List (String × Json)}, decodeMembers? depth ts = some members →
    ∀ m ∈ members, m.2.IsOrdered
  | _, [], members, h => by
    rw [decodeMembers?] at h
    simp [← Option.some.inj h]
  | depth, (pieces, t) :: ts, members, h => by
    obtain ⟨name, -, h⟩ := Option.bind_eq_some_iff.mp h
    obtain ⟨first, hfirst, h⟩ := Option.bind_eq_some_iff.mp h
    obtain ⟨rest, hrest, h⟩ := Option.bind_eq_some_iff.mp h
    obtain rfl : (String.ofList name, first) :: rest = members := Option.some.inj h
    exact List.forall_mem_cons.mpr
      ⟨isOrdered_of_decode? hfirst, isOrdered_of_decodeMembers? hrest⟩

end

theorem isOrdered_of_parse? {text : String} {j : Json} (h : parse? text = some j) :
    j.IsOrdered := by
  obtain ⟨t, -, ht⟩ := Option.bind_eq_some_iff.mp h
  exact isOrdered_of_decode? ht

end Reading

end RecordQuery.Json
