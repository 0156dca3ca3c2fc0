import RecordQuery.Evaluation.Evaluator
import RecordQuery.Proofs.Json.Members

/-!
# Records under other names

A record whose members get other names, at every depth. If no two names become one, everything is
found under its new name and nothing else is, and values that were the same stay so.
-/
namespace RecordQuery.Json

mutual

/-- The names of all members at any depth. -/
def memberNames : Json → List String
  | .array items => itemNames items
  | .object members => namesOf members
  | .null | .boolean _ | .number _ | .string _ => []

def itemNames : List Json → List String
  | [] => []
  | j :: rest => memberNames j ++ itemNames rest

def namesOf : List (String × Json) → List String
  | [] => []
  | (name, j) :: rest => name :: (memberNames j ++ namesOf rest)

end

mutual

/-- Every member at any depth gets the name that the aliases give it. -/
def rename (aliases : Aliases) : Json → Json
  | .array items => .array (renameItems aliases items)
  | .object members => .ofMembers (renameMembers aliases members)
  | .null => .null
  | .boolean b => .boolean b
  | .number n => .number n
  | .string s => .string s

def renameItems (aliases : Aliases) : List Json → List Json
  | [] => []
  | j :: rest => rename aliases j :: renameItems aliases rest

def renameMembers (aliases : Aliases) : List (String × Json) → List (String × Json)
  | [] => []
  | (name, j) :: rest => (aliases.resolve name, rename aliases j) :: renameMembers aliases rest

end

theorem renameItems_eq_map (aliases : Aliases) (items : List Json) :
    renameItems aliases items = items.map (rename aliases) := by
  induction items with
  | nil => rfl
  | cons j rest ih => rw [renameItems, ih, List.map_cons]

theorem renameMembers_eq_map (aliases : Aliases) (members : List (String × Json)) :
    renameMembers aliases members =
      members.map fun m => (aliases.resolve m.1, m.2.rename aliases) := by
  induction members with
  | nil => rfl
  | cons m rest ih => rw [renameMembers, ih, List.map_cons]

theorem mem_itemNames {n : String} {items : List Json} :
    n ∈ itemNames items ↔ ∃ j ∈ items, n ∈ j.memberNames := by
  induction items with
  | nil => simp [itemNames]
  | cons j rest ih => simp [itemNames, ih]

theorem mem_namesOf {n : String} {members : List (String × Json)} :
    n ∈ namesOf members ↔ ∃ m ∈ members, n = m.1 ∨ n ∈ m.2.memberNames := by
  induction members with
  | nil => simp [namesOf]
  | cons m rest ih => simp [namesOf, ih, or_assoc]

/-- A renamed record is a record again. -/
theorem IsOrdered.rename {j : Json} (h : j.IsOrdered) (aliases : Aliases) :
    (j.rename aliases).IsOrdered := by
  induction h with
  | null => exact .null
  | boolean b => exact .boolean b
  | number n => exact .number n
  | string s => exact .string s
  | array _ ih =>
    rw [Json.rename, renameItems_eq_map]
    refine .array fun j hj => ?_
    obtain ⟨i, hi, rfl⟩ := List.mem_map.mp hj
    exact ih i hi
  | object _ _ ih =>
    rw [Json.rename, renameMembers_eq_map]
    refine isOrdered_ofMembers fun m hm => ?_
    obtain ⟨old, hold, rfl⟩ := List.mem_map.mp hm
    exact ih old hold

/-- A record all of whose member names are among the given ones. -/
structure IsNamed (S : Set String) (j : Json) : Prop where
  ordered : j.IsOrdered
  names : ∀ n ∈ j.memberNames, n ∈ S

namespace IsNamed

variable {S : Set String} {items : List Json} {members : List (String × Json)}

theorem item (h : IsNamed S (.array items)) {j : Json} (hj : j ∈ items) : IsNamed S j where
  ordered := by
    cases h.ordered with
    | array items_ordered => exact items_ordered j hj
  names n hn := h.names n (mem_itemNames.mpr ⟨j, hj, hn⟩)

theorem inOrder (h : IsNamed S (.object members)) : InOrder members := by
  cases h.ordered with
  | object inOrder => exact inOrder

theorem name (h : IsNamed S (.object members)) {m : String × Json} (hm : m ∈ members) :
    m.1 ∈ S := h.names _ (mem_namesOf.mpr ⟨m, hm, .inl rfl⟩)

theorem value (h : IsNamed S (.object members)) {m : String × Json} (hm : m ∈ members) :
    IsNamed S m.2 where
  ordered := by
    cases h.ordered with
    | object _ values_ordered => exact values_ordered m hm
  names n hn := h.names n (mem_namesOf.mpr ⟨m, hm, .inr hn⟩)

theorem member? {j v : Json} {n : String} (h : IsNamed S j) (hv : j.member? n = some v) :
    IsNamed S v := by
  cases j with
  | object members => exact h.value (h.inOrder.lookup_iff.mp hv)
  | _ => contradiction

theorem resolve? {names : List String} {scope v : Json} (h : IsNamed S scope)
    (hv : Json.resolve? names scope = some v) : IsNamed S v := by
  induction names generalizing scope with
  | nil => exact Option.some.inj hv ▸ h
  | cons name rest ih =>
    obtain ⟨inner, hinner, hv⟩ := Option.bind_eq_some_iff.mp hv
    exact ih (h.member? hinner) hv

end IsNamed

section Renaming

variable {aliases : Aliases} {S : Set String} (inj : Set.InjOn aliases.resolve S)

include inj

theorem distinct_renameMembers {members : List (String × Json)}
    (h : IsNamed S (.object members)) :
    (renameMembers aliases members).Pairwise fun m m' => m.1 ≠ m'.1 := by
  rw [renameMembers_eq_map, List.pairwise_map]
  refine h.inOrder.imp_of_mem fun hm hm' hlt heq => ?_
  exact hlt.ne (inj (h.name hm) (h.name hm') heq)

/-- A member is found under its new name. -/
theorem member?_rename {j : Json} (h : IsNamed S j) {n : String} (hn : n ∈ S) :
    (j.rename aliases).member? (aliases.resolve n) = (j.member? n).map (rename aliases) := by
  cases j with
  | object members =>
    apply Option.ext
    intro v
    rw [rename, member?_ofMembers (distinct_renameMembers inj h), renameMembers_eq_map,
      List.mem_map, Option.map_eq_some_iff]
    constructor
    · rintro ⟨m, hm, heq⟩
      obtain ⟨hname, rfl⟩ := Prod.mk.inj heq
      obtain rfl := inj (h.name hm) hn hname
      exact ⟨m.2, h.inOrder.lookup_iff.mpr hm, rfl⟩
    · rintro ⟨x, hx, rfl⟩
      exact ⟨(n, x), h.inOrder.lookup_iff.mp hx, rfl⟩
  | _ => rfl

theorem resolve?_rename {names : List String} {j : Json} (h : IsNamed S j)
    (hnames : ∀ n ∈ names, n ∈ S) :
    resolve? (names.map aliases.resolve) (j.rename aliases) =
      (resolve? names j).map (rename aliases) := by
  induction names generalizing j with
  | nil => rfl
  | cons n rest ih =>
    obtain ⟨hn, hrest⟩ := List.forall_mem_cons.mp hnames
    rw [List.map_cons, resolve?, resolve?, member?_rename inj h hn]
    cases hv : j.member? n with
    | none => rfl
    | some v => exact ih (h.member? hv) hrest

theorem rel_rename {xs ys : List (String × Json)} (hx : IsNamed S (.object xs))
    (hy : IsNamed S (.object ys))
    (hsame : ∀ m ∈ xs, ∀ y, IsNamed S y → same (m.2.rename aliases) (y.rename aliases) = same m.2 y)
    {n : String} (hn : n ∈ S) :
    Option.Rel (fun x y => same x y = true)
        ((rename aliases (.object xs)).member? (aliases.resolve n))
        ((rename aliases (.object ys)).member? (aliases.resolve n)) ↔
      Option.Rel (fun x y => same x y = true) (xs.lookup n) (ys.lookup n) := by
  rw [member?_rename inj hx hn, member?_rename inj hy hn, Json.member?, Json.member?]
  cases hxn : xs.lookup n with
  | none => cases ys.lookup n <;> simp
  | some x =>
    cases hyn : ys.lookup n with
    | none => simp
    | some y =>
      have hxm := hx.inOrder.lookup_iff.mp hxn
      have hym := hy.inOrder.lookup_iff.mp hyn
      simp [hsame (n, x) hxm y (hy.value hym)]

/-- Whatever has a name in a renamed object had one before. -/
theorem exists_of_member?_rename {members : List (String × Json)} {w : String} {v : Json}
    (h : IsNamed S (.object members)) (hv : (rename aliases (.object members)).member? w = some v) :
    ∃ n ∈ S, w = aliases.resolve n := by
  rw [rename, member?_ofMembers (distinct_renameMembers inj h), renameMembers_eq_map,
    List.mem_map] at hv
  obtain ⟨m, hm, heq⟩ := hv
  exact ⟨m.1, h.name hm, (Prod.mk.inj heq).1.symm⟩

omit inj in
theorem sameItems_map {f : Json → Json} {xs ys : List Json}
    (h : ∀ x ∈ xs, ∀ y ∈ ys, same (f x) (f y) = same x y) :
    sameItems (xs.map f) (ys.map f) = sameItems xs ys := by
  induction xs generalizing ys with
  | nil => cases ys <;> rfl
  | cons x xs ih =>
    cases ys with
    | nil => rfl
    | cons y ys =>
      have hfirst := h x List.mem_cons_self y List.mem_cons_self
      have hrest := ih fun x hx y hy =>
        h x (List.mem_cons_of_mem _ hx) y (List.mem_cons_of_mem _ hy)
      simp only [List.map_cons, sameItems, hfirst, hrest]

theorem same_rename_object {xs ys : List (String × Json)} (hx : IsNamed S (.object xs))
    (hy : IsNamed S (.object ys))
    (hsame : ∀ m ∈ xs, ∀ y, IsNamed S y →
      same (m.2.rename aliases) (y.rename aliases) = same m.2 y) :
    same (rename aliases (.object xs)) (rename aliases (.object ys)) =
      same (.object xs) (.object ys) := by
  have hrel {n : String} (hn : n ∈ S) := rel_rename inj hx hy hsame hn
  have hrenamed : same (rename aliases (.object xs)) (rename aliases (.object ys)) ↔
      ∀ w, Option.Rel (fun x y => same x y = true) ((rename aliases (.object xs)).member? w)
        ((rename aliases (.object ys)).member? w) :=
    sameMembers_iff (InOrder.foldl_insertMember List.Pairwise.nil)
      (InOrder.foldl_insertMember List.Pairwise.nil)
  rw [Bool.eq_iff_iff, hrenamed, same, sameMembers_iff hx.inOrder hy.inOrder]
  constructor
  · intro h n
    by_cases hn : n ∈ S
    · exact (hrel hn).mp (h _)
    · have hnone {members : List (String × Json)} (hm : IsNamed S (.object members)) :
          members.lookup n = none :=
        Option.eq_none_iff_forall_ne_some.mpr fun v hv =>
          hn (hm.name (hm.inOrder.lookup_iff.mp hv))
      rw [hnone hx, hnone hy]
      exact .none
  · intro h w
    by_cases hw : ∃ n ∈ S, w = aliases.resolve n
    · obtain ⟨n, hn, rfl⟩ := hw
      exact (hrel hn).mpr (h n)
    · have hnone {members : List (String × Json)} (hm : IsNamed S (.object members)) :
          (rename aliases (.object members)).member? w = none :=
        Option.eq_none_iff_forall_ne_some.mpr fun v hv => hw (exists_of_member?_rename inj hm hv)
      rw [hnone hx, hnone hy]
      exact .none

/-- Deep equality does not see the names, only which of them are the same. -/
theorem same_rename {x y : Json} (hx : IsNamed S x) (hy : IsNamed S y) :
    same (x.rename aliases) (y.rename aliases) = same x y := by
  obtain ⟨ordered, names⟩ := hx
  induction ordered generalizing y with
  | null | boolean | number | string => cases y <;> rfl
  | @array xs items_ordered ih =>
    have hx : IsNamed S (.array xs) := ⟨.array items_ordered, names⟩
    cases y with
    | array ys =>
      simp only [rename, same, renameItems_eq_map]
      exact sameItems_map fun x hxs y hys => ih x hxs (hy.item hys) (hx.item hxs).names
    | _ => rfl
  | @object xs inOrder values_ordered ih =>
    have hx : IsNamed S (.object xs) := ⟨.object inOrder values_ordered, names⟩
    cases y with
    | object ys =>
      exact same_rename_object inj hx hy fun m hm y hy => ih m hm hy (hx.value hm).names
    | _ => rfl

end Renaming

end RecordQuery.Json
