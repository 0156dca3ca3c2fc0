import RecordQuery.Predicate.Stored
import RecordQuery.Proofs.Predicate.Constituents
import RecordQuery.Proofs.Time.StoredText

/-!
# Stored predicates

A predicate is read back from its stored form as it was, with every path that was given as a text,
every constant, and calls with any arguments.
-/
namespace RecordQuery

theorem Path.text_ofText (text : String) : (ofText text).text = text := by
  unfold ofText
  split
  · next h => rw [text_current, String.isEmpty_iff.mp h]
  · simp [Path.text, chars, Function.comp_def, List.intercalate_splitOn]

theorem Comparison.ofToken?_token (op : Comparison) : ofToken? op.token = some op := by
  cases op <;> rfl

theorem Connective.ofToken?_token (op : Connective) : ofToken? op.token = some op := by
  cases op <;> rfl

theorem Test.ofName?_name (t : Test) : ofName? t.name = some t := by
  cases t <;> rfl

namespace Literal

/-- A constant that its stored form can hold: an integer of sixty-four bits, a finite number. -/
def IsStorable : Literal → Prop
  | .integer i => Number.minSigned ≤ i ∧ i ≤ Number.maxSigned
  | .real x => x.isFinite
  | .string _ | .boolean _ | .instant _ | .null | .member .. => True

instance : DecidablePred IsStorable
  | .integer i => inferInstanceAs (Decidable (Number.minSigned ≤ i ∧ i ≤ Number.maxSigned))
  | .real x => inferInstanceAs (Decidable (x.isFinite = true))
  | .string _ | .boolean _ | .instant _ | .null | .member .. => .isTrue trivial

theorem ofKind?_stored {v : Literal} (h : v.IsStorable) :
    ofKind? v.storedKind v.storedValue? = some v := by
  cases v with
  | string s => rfl
  | integer i =>
    have hi : Number.minSigned ≤ i ∧ i ≤ Number.maxSigned := h
    simp [ofKind?, storedKind, storedValue?, Json.ofInt, Json.toIntWithin?, hi]
  | real x =>
    have hx : x.isFinite = true := h
    simp [ofKind?, storedKind, storedValue?, hx, Json.toReal?, Number.toReal]
  | boolean b => rfl
  | instant t =>
    simp [ofKind?, storedKind, storedValue?, Json.toString?,
      Time.Instant.readRelaxed?_storedText]
  | null => rfl
  | member typeName label => rfl

theorem read?_toJson (level : Stored.Level) {v : Literal} (h : v.IsStorable) :
    read? level v.toJson = some v := by
  have hkind := ofKind?_stored h
  unfold toJson
  split <;> next hvalue =>
    rw [hvalue] at hkind
    exact hkind

end Literal

namespace Predicate

open Stored (choice? tag?)

theorem reading_json (j : Json) : (reading j).json = j := by
  cases j <;> rfl

theorem readings_eq_map (items : List Json) : readings items = items.map reading := by
  induction items with
  | nil => rfl
  | cons j rest ih => rw [readings, ih, List.map_cons]

theorem lookup_memberReadings (members : List (String × Json)) (name : String) :
    (memberReadings members).lookup name = (members.lookup name).map reading := by
  induction members with
  | nil => rfl
  | cons m rest ih =>
    rw [memberReadings, List.lookup_cons, List.lookup_cons, ih]
    split <;> rfl

section Parts

variable (part? : String → Option Json)

def child? (name : String) : Option Predicate := (part? name).bind fun j => (reading j).predicate?

/-- Arguments that are left out are none. -/
def arguments? : Option (List Predicate) :=
  match part? "args" with
  | none => some []
  | some j => (reading j).predicates?

/-- What is put together from the parts that go with a tag. -/
inductive Formed : String → Predicate → Prop
  | literal {v : Literal} (value : (part? "value").bind (Literal.read? .inner) = some v) :
      Formed "literal" (.literal v)
  | field {text : String} (path : (part? "path").bind Json.toString? = some text) :
      Formed "field" (.field (.ofText text))
  | compare {op : Comparison} {a b : Predicate}
      (token : ((part? "op").bind (choice? .inner)).bind Comparison.ofToken? = some op)
      (left : child? part? "left" = some a) (right : child? part? "right" = some b) :
      Formed "compare" (.compare op a b)
  | logical {op : Connective} {a b : Predicate}
      (token : ((part? "op").bind (choice? .inner)).bind Connective.ofToken? = some op)
      (left : child? part? "left" = some a) (right : child? part? "right" = some b) :
      Formed "logical" (.logical op a b)
  | not {a : Predicate} (operand : child? part? "operand" = some a) : Formed "not" (.not a)
  | call {t : Test} {target : Predicate} {arguments : List Predicate}
      (kind : ((part? "kind").bind (choice? .inner)).bind Test.ofName? = some t)
      (ofTarget : child? part? "target" = some target)
      (ofArguments : arguments? part? = some arguments) :
      Formed "call" (.call t target arguments)

end Parts

variable {part? : String → Option Json} {tag : String} {e : Predicate}

theorem json_part (name : String) : ((part? name).map reading).map (·.json) = part? name := by
  simp [Function.comp_def, reading_json]

theorem predicate?_part (name : String) :
    ((part? name).map reading).bind (·.predicate?) = child? part? name := by
  simp [child?, Option.bind_map]

theorem Formed.of_ofTagged? (h : ofTagged? ⟨tag, fun name => (part? name).map reading⟩ = some e) :
    Formed part? tag e := by
  unfold ofTagged? at h
  dsimp only at h
  split at h
  · next htag =>
    simp only [json_part, Option.bind_eq_bind, Option.bind_eq_some_iff,
      Option.pure_def, Option.some.injEq] at h
    obtain ⟨j, hj, v, hv, rfl⟩ := h
    exact htag ▸ .literal (by simp [hj, hv])
  split at h
  · next htag =>
    simp only [json_part, Option.bind_eq_bind, Option.bind_eq_some_iff,
      Option.pure_def, Option.some.injEq] at h
    obtain ⟨j, hj, text, htext, rfl⟩ := h
    exact htag ▸ .field (by simp [hj, htext])
  split at h
  · next htag =>
    simp only [json_part, predicate?_part, Option.bind_eq_bind, Option.bind_eq_some_iff,
      Option.pure_def, Option.some.injEq] at h
    obtain ⟨j, hj, s, hs, op, hop, a, ha, b, hb, rfl⟩ := h
    exact htag ▸ .compare (by simp [hj, hs, hop]) ha hb
  split at h
  · next htag =>
    simp only [json_part, predicate?_part, Option.bind_eq_bind, Option.bind_eq_some_iff,
      Option.pure_def, Option.some.injEq] at h
    obtain ⟨j, hj, s, hs, op, hop, a, ha, b, hb, rfl⟩ := h
    exact htag ▸ .logical (by simp [hj, hs, hop]) ha hb
  split at h
  · next htag =>
    simp only [predicate?_part, Option.bind_eq_bind, Option.bind_eq_some_iff,
      Option.pure_def, Option.some.injEq] at h
    obtain ⟨a, ha, rfl⟩ := h
    exact htag ▸ .not ha
  split at h
  · next htag =>
    cases hargs : part? "args" with
    | none =>
      simp only [hargs, Option.map_none, json_part, predicate?_part, Option.bind_eq_bind,
        Option.bind_eq_some_iff, Option.pure_def, Option.some.injEq] at h
      obtain ⟨_, rfl, j, hj, s, hs, t, ht, target, htarget, rfl⟩ := h
      exact htag ▸ .call (by simp [hj, hs, ht]) htarget (by rw [arguments?, hargs])
    | some r =>
      simp only [hargs, Option.map_some, json_part, predicate?_part, Option.bind_eq_bind,
        Option.bind_eq_some_iff, Option.pure_def, Option.some.injEq] at h
      obtain ⟨arguments, harguments, j, hj, s, hs, t, ht, target, htarget, rfl⟩ := h
      exact htag ▸ .call (by simp [hj, hs, ht]) htarget (by rw [arguments?, hargs, ← harguments])
  · contradiction

theorem Formed.ofTagged? (h : Formed part? tag e) :
    ofTagged? ⟨tag, fun name => (part? name).map reading⟩ = some e := by
  unfold Predicate.ofTagged?
  dsimp only
  cases h with
  | literal value =>
    obtain ⟨j, hj, hv⟩ := Option.bind_eq_some_iff.mp value
    simp [reading_json, hj, hv]
  | field path =>
    obtain ⟨j, hj, htext⟩ := Option.bind_eq_some_iff.mp path
    rw [if_neg (by decide), if_pos rfl]
    simp [reading_json, hj, htext]
  | compare token left right =>
    obtain ⟨s, hs, hop⟩ := Option.bind_eq_some_iff.mp token
    obtain ⟨j, hj, hs⟩ := Option.bind_eq_some_iff.mp hs
    rw [if_neg (by decide), if_neg (by decide), if_pos rfl]
    simp [reading_json, predicate?_part, hj, hs, hop, left, right]
  | logical token left right =>
    obtain ⟨s, hs, hop⟩ := Option.bind_eq_some_iff.mp token
    obtain ⟨j, hj, hs⟩ := Option.bind_eq_some_iff.mp hs
    rw [if_neg (by decide), if_neg (by decide), if_neg (by decide), if_pos rfl]
    simp [reading_json, predicate?_part, hj, hs, hop, left, right]
  | not operand =>
    rw [if_neg (by decide), if_neg (by decide), if_neg (by decide), if_neg (by decide), if_pos rfl]
    simp [predicate?_part, operand]
  | call kind ofTarget ofArguments =>
    obtain ⟨s, hs, ht⟩ := Option.bind_eq_some_iff.mp kind
    obtain ⟨j, hj, hs⟩ := Option.bind_eq_some_iff.mp hs
    rw [if_neg (by decide), if_neg (by decide), if_neg (by decide), if_neg (by decide),
      if_neg (by decide), if_pos rfl]
    unfold arguments? at ofArguments
    split at ofArguments
    · next hargs =>
      obtain rfl := Option.some.inj ofArguments
      simp [reading_json, predicate?_part, hj, hs, ht, hargs, ofTarget]
    · next hargs =>
      simp [reading_json, predicate?_part, hj, hs, ht, hargs, ofTarget, ofArguments]

/-- An object is read by its tag and by the values that are found in it. -/
theorem reading_object_iff {members : List (String × Json)} :
    (reading (.object members)).predicate? = some e ↔
      ∃ tag, (members.lookup "type").bind (tag? .inner typeNames) = some tag ∧
        Formed (fun name => members.lookup name) tag e := by
  have hread : (reading (.object members)).predicate? =
      ((members.lookup "type").bind (tag? .inner typeNames)).bind fun tag =>
        ofTagged? ⟨tag, fun name => (members.lookup name).map reading⟩ := by
    simp only [reading, ofMembers?, lookup_memberReadings, Option.bind_eq_bind]
    cases members.lookup "type" with
    | none => rfl
    | some j => simp only [Option.map_some, Option.bind_some, reading_json]
  rw [hread, Option.bind_eq_some_iff]
  exact exists_congr fun tag => and_congr_right fun _ => ⟨Formed.of_ofTagged?, Formed.ofTagged?⟩

mutual

theorem reading_toJson : ∀ {e : Predicate},
    e.Each (fun p => ∃ text, p = .ofText text) Literal.IsStorable →
    (reading e.toJson).predicate? = some e
  | .literal v, h => by
    rw [toJson, reading_object_iff]
    exact ⟨"literal", rfl, .literal (Literal.read?_toJson .inner h)⟩
  | .field p, h => by
    obtain ⟨text, rfl⟩ := h
    rw [toJson, reading_object_iff]
    exact ⟨"field", rfl, .field (congrArg some (Path.text_ofText text))⟩
  | .compare op a b, h => by
    have ha := reading_toJson h.1
    have hb := reading_toJson h.2
    rw [toJson, reading_object_iff]
    exact ⟨"compare", rfl, .compare (Comparison.ofToken?_token op) ha hb⟩
  | .logical op a b, h => by
    have ha := reading_toJson h.1
    have hb := reading_toJson h.2
    rw [toJson, reading_object_iff]
    exact ⟨"logical", rfl, .logical (Connective.ofToken?_token op) ha hb⟩
  | .not a, h => by
    have ha := reading_toJson (e := a) h
    rw [toJson, reading_object_iff]
    exact ⟨"not", rfl, .not ha⟩
  | .call t target arguments, h => by
    have htarget := reading_toJson h.1
    have harguments := predicates?_toJsonAll h.2
    rw [toJson, reading_object_iff]
    exact ⟨"call", rfl, .call (Test.ofName?_name t) htarget harguments⟩

theorem predicates?_toJsonAll : ∀ {es : List Predicate},
    EachAll (fun p => ∃ text, p = .ofText text) Literal.IsStorable es →
    (reading (.array (toJsonAll es))).predicates? = some es
  | [], _ => rfl
  | e :: es, h => by
    have he := reading_toJson h.1
    have hes := predicates?_toJsonAll h.2
    simp only [reading] at hes
    simp [reading, toJsonAll, readings, List.mapM_cons, he, hes]

end

theorem ofJson?_toJson {e : Predicate}
    (he : e.Each (fun p => ∃ text, p = .ofText text) Literal.IsStorable) :
    ofJson? e.toJson = some e := by
  have hread := reading_toJson he
  cases e <;> exact hread

end Predicate

end RecordQuery
