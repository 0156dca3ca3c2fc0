import RecordQuery.Evaluation.Evaluator
import RecordQuery.Proofs.Clause.Accepted
import RecordQuery.Proofs.Clause.Spelling
import RecordQuery.Proofs.Predicate.Stored
import RecordQuery.Proofs.Result
import RecordQuery.Proofs.Text.Mark

/-!
# Paths and their texts

A clause and a stored predicate hold a path as a text; a record is searched by its segments. Both
name one member exactly if no segment has a slash in it and the path is not a single empty segment.
Paths that come from texts are so, and remain so under aliases with plain wire names.
-/
namespace RecordQuery

namespace Path

/-- No segment looks like several ones in a text, or like none. -/
def IsPlain (p : Path) : Prop := (∀ s ∈ p.segments, '/' ∉ s.toList) ∧ p.segments ≠ [""]

instance : DecidablePred IsPlain := fun p =>
  inferInstanceAs (Decidable ((∀ s ∈ p.segments, '/' ∉ s.toList) ∧ p.segments ≠ [""]))

theorem isPlain_current : current.IsPlain := ⟨by simp [current], by simp [current]⟩

theorem isPlain_ofText (text : String) : (ofText text).IsPlain := by
  have htext := text_ofText text
  by_cases hempty : text.isEmpty
  · rw [ofText, if_pos hempty]
    exact isPlain_current
  · rw [ofText, if_neg hempty] at htext ⊢
    constructor
    · simp only [List.mem_map, forall_exists_index, and_imp, forall_apply_eq_imp_iff₂,
        String.toList_ofList]
      exact fun piece hpiece => Text.not_mem_of_mem_splitOn hpiece
    · intro hsegments
      rw [Path.text, chars, hsegments] at htext
      exact hempty (htext ▸ rfl)

theorem ofText_text_of_isPlain {p : Path} (h : p.IsPlain) : ofText p.text = p := by
  cases hcurrent : p.isCurrent with
  | true =>
    obtain ⟨segments⟩ := p
    obtain rfl : segments = [] := by simpa [isCurrent] using hcurrent
    rfl
  | false =>
    have hsplit := Clause.splitOn_chars h.1 hcurrent
    have hchars : p.chars ≠ [] := by
      intro hnil
      rw [hnil, List.splitOn_nil] at hsplit
      obtain ⟨s, hs, hempty⟩ := List.map_eq_singleton_iff.mp hsplit.symm
      exact h.2 (by rw [hs, String.toList_eq_nil_iff.mp hempty])
    have htext : ¬p.text.isEmpty := by simpa [text] using hchars
    rw [ofText, if_neg htext, text, String.toList_ofList, hsplit]
    simp [Function.comp_def]

theorem ofText_text_iff (p : Path) : ofText p.text = p ↔ p.IsPlain :=
  ⟨fun h => h ▸ isPlain_ofText _, ofText_text_of_isPlain⟩

end Path

/-! Paths that lead to the same place in every record are one path. -/

/-- A record that has little more than a member at a path. -/
def Json.nested : List String → Json
  | [] => .null
  | name :: rest => .object [(name, nested rest)]

theorem Json.resolve?_object (name name' : String) (rest : List String) (value : Json) :
    resolve? (name :: rest) (.object [(name', value)]) =
      if name = name' then resolve? rest value else none := by
  rw [resolve?, member?, List.lookup_cons]
  split <;> simp_all

theorem Json.resolve?_nested (names : List String) :
    resolve? names (nested names) = some .null := by
  induction names with
  | nil => rfl
  | cons name rest ih => rw [nested, resolve?_object, if_pos rfl, ih]

theorem Json.eq_of_resolve? {names names' : List String}
    (h : ∀ scope, resolve? names scope = resolve? names' scope) : names = names' := by
  induction names generalizing names' with
  | nil =>
    cases names' with
    | nil => rfl
    | cons name rest => simpa [resolve?, member?] using h .null
  | cons name rest ih =>
    cases names' with
    | nil => simpa [resolve?, member?] using h .null
    | cons name' rest' =>
      have hname : name' = name := by
        by_contra hne
        have hnested := h (nested (name :: rest))
        rw [resolve?_nested, nested, resolve?_object, if_neg hne] at hnested
        contradiction
      have hrest : rest = rest' := ih fun scope => by
        simpa only [resolve?_object, hname, if_true] using h (.object [(name, scope)])
      rw [hname, hrest]

/-! Paths that a program can build. -/

/-- Every wire name is one segment of a text. -/
def Aliases.IsPlain (a : Aliases) : Prop := ∀ pair ∈ a.pairs, pair.2 ≠ "" ∧ '/' ∉ pair.2.toList

theorem Aliases.resolve_eq_or (a : Aliases) (name : String) :
    a.resolve name = name ∨ ∃ pair ∈ a.pairs, a.resolve name = pair.2 := by
  unfold resolve
  cases h : a.pairs.lookup name with
  | none => exact .inl rfl
  | some wire =>
    obtain ⟨before, after, hpairs, -⟩ := List.lookup_eq_some_iff.mp h
    exact .inr ⟨(name, wire), by simp [hpairs], rfl⟩

theorem Aliases.IsPlain.resolvePath {a : Aliases} (ha : a.IsPlain) {p : Path} (hp : p.IsPlain) :
    (a.resolvePath p).IsPlain := by
  constructor
  · intro wire hwire
    obtain ⟨s, hs, rfl⟩ := List.mem_map.mp hwire
    rcases a.resolve_eq_or s with h | ⟨pair, hpair, h⟩
    · rw [h]
      exact hp.1 s hs
    · rw [h]
      exact (ha pair hpair).2
  · intro hsegments
    obtain ⟨s, hs, hempty⟩ := List.map_eq_singleton_iff.mp hsegments
    rcases a.resolve_eq_or s with h | ⟨pair, hpair, h⟩
    · exact hp.2 (by rw [hs, ← h, hempty])
    · exact (ha pair hpair).1 (h.symm.trans hempty)

/-- The paths of texts, the scope itself, and paths with their segments replaced under one alias
table after the other. -/
inductive Path.Built (accepted : Aliases → Prop) : Path → Prop
  | ofText (text : String) : Built accepted (ofText text)
  | current : Built accepted .current
  | resolved {a : Aliases} {p : Path} (ha : accepted a) (hp : Built accepted p) :
      Built accepted (a.resolvePath p)

theorem Path.Built.isPlain {p : Path} (h : p.Built Aliases.IsPlain) : p.IsPlain := by
  induction h with
  | ofText text => exact isPlain_ofText text
  | current => exact isPlain_current
  | resolved ha _ ih => exact ha.resolvePath ih

namespace Predicate

theorem ofJson?_field (p : Path) :
    ofJson? (field p).toJson = some (field (.ofText p.text)) := rfl

theorem clause_field (style : BooleanStyle) {p : Path} (named : p.isCurrent = false) :
    (field p).clause style = .ok p.text :=
  map_eq_ok_iff.mpr ⟨p.chars, Clause.chars_field named, rfl⟩

/-- The text of a path is read as the path, leads to the same place as the path in every record, and
brings a stored member back, all three for plain paths only; the clause of a member is that text.
Plain are the paths of texts and those that aliases with plain wire names make of them. -/
theorem path_kept (p : Path) :
    (Path.ofText p.text = p ↔ p.IsPlain) ∧
      ((∀ scope : Json, scope.resolvePath? (.ofText p.text) = scope.resolvePath? p) ↔ p.IsPlain) ∧
      (ofJson? (field p).toJson = some (field p) ↔ p.IsPlain) ∧
      (p.isCurrent = false → ∀ style, (field p).clause style = .ok p.text) ∧
      (p.Built Aliases.IsPlain → p.IsPlain) := by
  have htext := Path.ofText_text_iff p
  refine ⟨htext, ?_, ?_, fun named style => clause_field style named, Path.Built.isPlain⟩
  · rw [← htext]
    constructor
    · intro h
      have hsegments := Json.eq_of_resolve? h
      cases p
      exact congrArg Path.mk hsegments
    · intro h scope
      rw [h]
  · rw [ofJson?_field, ← htext]
    simp

/-- Both segments of a path get a wire name. -/
theorem path_kept_aliased :
    let aliases := Aliases.ofList [("customer", "Customer"), ("city", "AddressCity")]
    let p := aliases.resolvePath (.ofText "customer/city")
    p.Built Aliases.IsPlain ∧ p.segments = ["Customer", "AddressCity"] ∧
      Path.ofText p.text = p := by
  intro aliases p
  have hplain : aliases.IsPlain := by
    unfold Aliases.IsPlain
    decide
  have hbuilt : p.Built Aliases.IsPlain := .resolved hplain (.ofText _)
  have hkept := path_kept p
  exact ⟨hbuilt, by decide, hkept.1.mpr (hkept.2.2.2.2 hbuilt)⟩

/-- A wire name with a slash in it: the clause asks for a member of a member, the evaluation for
one member of that name. -/
theorem path_lost_in_wire_name :
    let aliases := Aliases.ofList [("city", "Address/City")]
    let p := aliases.resolvePath (.ofText "city")
    let record : Json := .object [("Address", .object [("City", .string "Oslo")])]
    p.Built (fun _ => True) ∧ Path.ofText p.text ≠ p ∧
      record.resolvePath? (.ofText p.text) = some (.string "Oslo") ∧
      record.resolvePath? p = none ∧ (field p).clause .native = .ok "Address/City" := by
  refine ⟨.resolved trivial (.ofText _), by decide, rfl, rfl, rfl⟩

end Predicate

end RecordQuery
