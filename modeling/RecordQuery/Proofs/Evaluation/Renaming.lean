import RecordQuery.Proofs.Evaluation.Chain
import RecordQuery.Proofs.Json.Renaming

/-!
# Predicates under other names

The path segments of a predicate and the member names of a record may be replaced together: as long
as no two of the names become one, the predicate comes out on the record as it did before, or fails
as it did.
-/
namespace RecordQuery

open Json (IsNamed)

namespace Predicate

mutual

/-- The segments of all paths, those in the conditions of collection tests included. -/
def segments : Predicate → List String
  | .literal _ => []
  | .field p => p.segments
  | .compare _ a b | .logical _ a b => segments a ++ segments b
  | .not a => segments a
  | .call _ target arguments => segments target ++ segmentsAll arguments

def segmentsAll : List Predicate → List String
  | [] => []
  | p :: ps => segments p ++ segmentsAll ps

end

variable (aliases : Aliases)

theorem literal?_rename (e : Predicate) : (e.rename aliases).literal? = e.literal? := by
  cases e <;> rfl

theorem mapM_literal?_renameAll (arguments : List Predicate) :
    (renameAll aliases arguments).mapM literal? = arguments.mapM literal? := by
  induction arguments with
  | nil => rfl
  | cons a rest ih => simp only [renameAll, List.mapM_cons, literal?_rename, ih]

end Predicate

section Comparing

variable {aliases : Aliases} {S : Set String} {style : BooleanStyle}

def Operand.rename (aliases : Aliases) : Operand → Operand
  | .record value => .record (value.rename aliases)
  | .constant value => .constant value
  | .missing => .missing

def Scalar.rename (aliases : Aliases) : Scalar → Scalar
  | .structured value => .structured (value.rename aliases)
  | v => v

/-- Only structured values have names. -/
theorem Operand.scalar_rename (o : Operand) :
    (o.rename aliases).scalar = o.scalar.rename aliases := by
  cases o with
  | record value =>
    cases value with
    | number n =>
      cases n with
      | integer i =>
        simp only [Operand.rename, Json.rename, scalar, Number.scalar]
        split <;> rfl
      | real x => rfl
    | _ => rfl
  | constant value => cases value <;> rfl
  | missing => rfl

theorem Operand.order?_rename (a b : Operand) :
    (a.rename aliases).order? style (b.rename aliases) = a.order? style b := by
  simp only [order?, scalar_rename]
  cases a.scalar <;> cases b.scalar <;> rfl

theorem Operand.eq_record_of_scalar {o : Operand} {value : Json}
    (h : o.scalar = .structured value) : o = .record value := by
  cases o with
  | record j =>
    cases j with
    | number n =>
      cases n with
      | integer i =>
        simp only [scalar, Number.scalar] at h
        split at h <;> contradiction
      | real x => contradiction
    | array items => rw [← Scalar.structured.inj h]
    | object members => rw [← Scalar.structured.inj h]
    | _ => contradiction
  | constant v => cases v <;> contradiction
  | missing => contradiction

/-- The value of a record that is compared has only the given names. -/
def Operand.IsNamed (S : Set String) (o : Operand) : Prop :=
  ∀ value, o = .record value → Json.IsNamed S value

theorem Operand.equal_rename (inj : Set.InjOn aliases.resolve S) {a b : Operand}
    (ha : a.IsNamed S) (hb : b.IsNamed S) :
    equal style (a.rename aliases) (b.rename aliases) = equal style a b := by
  unfold equal
  rw [scalar_rename, scalar_rename]
  cases hx : a.scalar with
  | structured x =>
    cases hy : b.scalar with
    | structured y =>
      exact Json.same_rename inj (ha x (eq_record_of_scalar hx)) (hb y (eq_record_of_scalar hy))
    | _ => rfl
  | _ => cases b.scalar <;> rfl

theorem Operand.equal_constant_rename (o : Operand) (v : Literal) :
    equal style (o.rename aliases) (.constant v) = equal style o (.constant v) := by
  unfold equal
  rw [scalar_rename]
  cases v <;> cases o.scalar <;> rfl

theorem Operand.compare_rename (inj : Set.InjOn aliases.resolve S) (op : Comparison)
    {a b : Operand} (ha : a.IsNamed S) (hb : b.IsNamed S) :
    compare style op (a.rename aliases) (b.rename aliases) = compare style op a b := by
  cases op <;> simp only [compare, order?_rename, equal_rename inj ha hb]

end Comparing

namespace Evaluation

open Predicate

variable {aliases : Aliases} {S : Set String} {style : BooleanStyle} {scope : Json}

theorem fieldTruth_rename (value : Option Json) :
    fieldTruth style (value.map (Json.rename aliases)) = fieldTruth style value := by
  cases value with
  | none => rfl
  | some value => cases value <;> rfl

theorem fieldOperand_rename (value : Option Json) :
    fieldOperand (value.map (Json.rename aliases)) = (fieldOperand value).rename aliases := by
  cases value <;> rfl

theorem anyMatch_rename (arguments : List Predicate) (value : Option Json) :
    constantTest style .anyMatch (renameAll aliases arguments)
        (value.map (Json.rename aliases)) =
      constantTest style .anyMatch arguments value := by
  rcases arguments with _ | ⟨first, _ | ⟨second, rest⟩⟩
  · rfl
  · cases first with
    | literal wanted =>
      rcases value with _ | value
      · rfl
      · cases value with
        | array items =>
          have hitem (j : Json) :
              Operand.equal style (.record (j.rename aliases)) (.constant wanted) =
                Operand.equal style (.record j) (.constant wanted) :=
            Operand.equal_constant_rename (.record j) wanted
          simp only [renameAll, Predicate.rename, Option.map_some, Json.rename,
            Json.renameItems_eq_map, constantTest, List.any_map, Function.comp_def, hitem]
        | _ => rfl
    | _ => rfl
  · cases first <;> rfl

/-- What is tested against constants has no names to see. -/
theorem constantTest_rename (t : Test) (arguments : List Predicate) (value : Option Json) :
    constantTest style t (renameAll aliases arguments) (value.map (Json.rename aliases)) =
      constantTest style t arguments value := by
  cases t with
  | anyMatch => exact anyMatch_rename arguments value
  | inList =>
    simp only [constantTest, mapM_literal?_renameAll, fieldOperand_rename,
      Operand.equal_constant_rename]
  | _ =>
    rcases arguments with _ | ⟨first, _ | ⟨second, rest⟩⟩
    · rfl
    · cases first with
      | literal v =>
        cases v with
        | string needle =>
          rcases value with _ | value
          · rfl
          · cases value <;> rfl
        | _ => rfl
      | _ => rfl
    · cases first with
      | literal v => cases v <;> rfl
      | _ => rfl

theorem someElement_map {f : Json → Json} {condition condition' : Json → Except Failure Bool}
    {items : List Json} (h : ∀ j ∈ items, condition' (f j) = condition j) :
    someElement condition' (items.map f) = someElement condition items :=
  someElement_congr (List.forall₂_map_left_iff.mpr (List.forall₂_same.mpr h))

theorem isNamed_of_operand {e : Predicate} {o : Operand} (h : IsNamed S scope)
    (ho : operand scope e = .ok o) : o.IsNamed S := by
  rintro value rfl
  cases e with
  | field p =>
    cases hv : scope.resolvePath? p with
    | none => simp [operand, fieldOperand, hv] at ho
    | some v =>
      have hvalue : v = value := by simpa [operand, fieldOperand, hv] using ho
      exact hvalue ▸ h.resolve? hv
  | _ => simp [operand] at ho

section Injective

variable (inj : Set.InjOn aliases.resolve S)

include inj

theorem resolvePath?_rename {p : Path} (h : IsNamed S scope) (hp : ∀ n ∈ p.segments, n ∈ S) :
    (scope.rename aliases).resolvePath? (aliases.resolvePath p) =
      (scope.resolvePath? p).map (Json.rename aliases) := Json.resolve?_rename inj h hp

theorem operand_rename {e : Predicate} (h : IsNamed S scope) (he : ∀ n ∈ e.segments, n ∈ S) :
    operand (scope.rename aliases) (e.rename aliases) =
      (operand scope e).map (Operand.rename aliases) := by
  cases e with
  | field p =>
    simp only [Predicate.rename, operand, resolvePath?_rename inj h he, fieldOperand_rename]
    rfl
  | _ => rfl

end Injective

mutual

theorem truth_rename (inj : Set.InjOn aliases.resolve S) : ∀ {e : Predicate} {scope : Json},
    IsNamed S scope → (∀ n ∈ e.segments, n ∈ S) →
    truth style (e.rename aliases) (scope.rename aliases) = truth style e scope
  | .literal v, _, _, _ => by cases v <;> rfl
  | .field p, scope, h, he => by
    simp only [Predicate.rename, truth, resolvePath?_rename inj h he, fieldTruth_rename]
  | .compare op a b, scope, h, he => by
    obtain ⟨ha, hb⟩ := List.forall_mem_append.mp he
    simp only [Predicate.rename, truth, operand_rename inj h ha, operand_rename inj h hb]
    cases hx : operand scope a with
    | error f => rfl
    | ok x =>
      cases hy : operand scope b with
      | error f => rfl
      | ok y =>
        have hxs := isNamed_of_operand h hx
        have hys := isNamed_of_operand h hy
        exact congrArg Except.ok (Operand.compare_rename inj op hxs hys)
  | .logical op a b, scope, h, he => by
    obtain ⟨ha, hb⟩ := List.forall_mem_append.mp he
    cases op <;> simp only [Predicate.rename, truth, truth_rename inj h ha, truth_rename inj h hb]
  | .not a, scope, h, he => by
    simp only [Predicate.rename, truth, truth_rename inj (e := a) h he]
  | .call t target arguments, scope, h, he => by
    obtain ⟨htarget, harguments⟩ := List.forall_mem_append.mp he
    cases target with
    | field p =>
      have hvalue := resolvePath?_rename inj h htarget
      cases t with
      | any =>
        simp only [Predicate.rename, truth, hvalue]
        cases hv : scope.resolvePath? p with
        | none => rfl
        | some v =>
          cases v with
          | array items =>
            have hitems := h.resolve? hv
            simp only [Option.map_some, Json.rename, Json.renameItems_eq_map]
            exact anyTruth_rename inj (fun _ hj => hitems.item hj) harguments
          | _ => rfl
      | _ => simp only [Predicate.rename, truth, hvalue, constantTest_rename]
    | _ => cases t <;> rfl

theorem anyTruth_rename (inj : Set.InjOn aliases.resolve S) :
    ∀ {arguments : List Predicate} {items : List Json}, (∀ j ∈ items, IsNamed S j) →
    (∀ n ∈ segmentsAll arguments, n ∈ S) →
    anyTruth style (renameAll aliases arguments) (items.map (Json.rename aliases)) =
      anyTruth style arguments items
  | [], items, _, _ => by
    simp [renameAll, anyTruth]
  | [condition], items, h, he => by
    have hcondition := (List.forall_mem_append.mp he).1
    exact someElement_map fun j hj => truth_rename inj (h j hj) hcondition
  | _ :: _ :: _, _, _, _ => rfl

end

end Evaluation

/-- If the aliases keep all names apart that occur in a predicate and in a record, the renamed
predicate does to the renamed record what the predicate does to the record, failures included. -/
theorem Predicate.holds_rename (style : BooleanStyle) (e : Predicate) (aliases : Aliases)
    (record : Json) (ordered : record.IsOrdered)
    (inj : Set.InjOn aliases.resolve {n | n ∈ e.segments ∨ n ∈ record.memberNames}) :
    (e.rename aliases).holds style (record.rename aliases) = e.holds style record := by
  have hrecord : IsNamed {n | n ∈ e.segments ∨ n ∈ record.memberNames} record :=
    ⟨ordered, fun _ hn => .inr hn⟩
  exact Evaluation.truth_rename inj hrecord fun _ hn => .inl hn

/-- Two names change places, and whole objects are compared inside a collection. -/
theorem Predicate.holds_rename_swapped :
    let aliases : Aliases := ⟨[("From", "To"), ("To", "From"), ("Name", "Label")]⟩
    let e : Predicate := .logical .and
      (.anyWhere (.field ⟨["Legs"]⟩) (.compare .eq (.field ⟨["From"]⟩) (.field ⟨["To"]⟩)))
      (.contains (.field ⟨["Site", "Name"]⟩) "kiel")
    let place : Json := .object [("Name", .string "Kiel"), ("Site", .null)]
    let record : Json := .object
      [("Legs", .array [.object [("From", place), ("To", place)]]), ("Site", place)]
    record.IsOrdered ∧
      Set.InjOn aliases.resolve {n | n ∈ e.segments ∨ n ∈ record.memberNames} ∧
      e.holds .native record = .ok true ∧
      (e.rename aliases).holds .native (record.rename aliases) = .ok true := by
  intro aliases e place record
  have hplace : place.IsOrdered :=
    .object (by decide) (by simp [Json.IsOrdered.string, Json.IsOrdered.null])
  have hlegs : Json.IsOrdered (.array [.object [("From", place), ("To", place)]]) := by
    refine .array fun j hj => ?_
    rw [List.mem_singleton.mp hj]
    exact .object (by decide) (by simp [hplace])
  have hordered : record.IsOrdered := .object (by decide) (by simp [hlegs, hplace])
  have hinj : Set.InjOn aliases.resolve {n | n ∈ e.segments ∨ n ∈ record.memberNames} := by
    have hnames : ∀ m ∈ e.segments ++ record.memberNames, ∀ n ∈ e.segments ++ record.memberNames,
        aliases.resolve m = aliases.resolve n → m = n := by decide
    exact fun m hm n hn => hnames m (List.mem_append.mpr hm) n (List.mem_append.mpr hn)
  have hholds : e.holds .native record = .ok true := by rfl
  exact ⟨hordered, hinj, hholds, (holds_rename .native e aliases record hordered hinj).trans hholds⟩

end RecordQuery
