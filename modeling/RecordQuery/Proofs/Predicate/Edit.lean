import RecordQuery.Proofs.Json.Members
import RecordQuery.Proofs.Predicate.Stored

/-!
# Edited predicates

The stored form of a predicate may lose argument lists that are empty and gain members that are not
asked for, at any depth. It is read as the same predicate.
-/
namespace RecordQuery

namespace Stored

open Predicate (partNames reading typeNames)

/-- What a value inside a stored predicate stands for. -/
inductive Place where
  | predicate
  | arguments
  | constant
  /-- A member of an enumeration. -/
  | member

namespace Place

/-- The members that have members of their own, and what they stand for. -/
def parts : Place → List (String × Place)
  | .predicate =>
    [("value", .constant), ("left", .predicate), ("right", .predicate), ("operand", .predicate),
      ("target", .predicate), ("args", .arguments)]
  | .constant => [("value", .member)]
  | .arguments | .member => []

/-- The names that are looked up in an object, those included that it may leave out. -/
def knownNames (members : List (String × Json)) : Place → List String
  | .predicate =>
    "type" :: (((members.lookup "type").bind (tag? .inner typeNames)).bind partNames).getD []
  | .constant => ["kind", "value"]
  | .member => ["type_name", "label"]
  | .arguments => []

/-- Whatever the first value is read as in its place, the second one is read as too. -/
def Keeps (j j' : Json) : Place → Prop
  | .predicate => ∀ e, (reading j).predicate? = some e → (reading j').predicate? = some e
  | .arguments => ∀ es, (reading j).predicates? = some es → (reading j').predicates? = some es
  | .constant => ∀ v, Literal.read? .inner j = some v → Literal.read? .inner j' = some v
  | .member => ∀ kind v, Literal.ofKind? kind (some j) = some v →
      Literal.ofKind? kind (some j') = some v

end Place

/-- One change of a stored value: an empty list of arguments is left out, or a member is added that
is not asked for, here or further inside. -/
inductive Edit : Place → Json → Json → Prop
  | leaveOut {members : List (String × Json)}
      (empty : members.lookup "args" = some (.array [])) :
      Edit .predicate (.object members) (.object (members.filter (·.1 ≠ "args")))
  | add {place : Place} {members : List (String × Json)} (name : String)
      (unknown : name ∉ place.knownNames members) (value : Json) :
      Edit place (.object members) (.object (Json.insertMember name value members))
  | inMember {place part : Place} {members : List (String × Json)} (name : String)
      {value value' : Json} (isPart : place.parts.lookup name = some part)
      (found : members.lookup name = some value) (edit : Edit part value value') :
      Edit place (.object members) (.object (Json.insertMember name value' members))
  | inItem {before after : List Json} {item item' : Json} (edit : Edit .predicate item item') :
      Edit .arguments (.array (before ++ item :: after)) (.array (before ++ item' :: after))

/-- What may become of a part of a stored value. -/
inductive PartKept : Place → String → Option Json → Option Json → Prop
  | same {place : Place} {name : String} (part : Option Json) : PartKept place name part part
  | edited {place inner : Place} {name : String} {j j' : Json}
      (isPart : place.parts.lookup name = some inner) (keeps : inner.Keeps j j') :
      PartKept place name (some j) (some j')
  | leftOut : PartKept .predicate "args" (some (.array [])) none

/-- What has no parts of its own is left alone. -/
theorem PartKept.eq {place : Place} {name : String} {part part' : Option Json}
    (h : PartKept place name part part') (hname : place.parts.lookup name = none) :
    part' = part := by
  cases h with
  | same => rfl
  | edited isPart =>
    rw [hname] at isPart
    contradiction
  | leftOut => contradiction

/-- What a part was read as, it is still read as. -/
theorem PartKept.bind {inner : Place} {name : String} {part part' : Option Json} {α : Type}
    {read : Json → Option α} {a : α} (h : PartKept .predicate name part part')
    (hname : Place.predicate.parts.lookup name = some inner) (hinner : inner ≠ .arguments)
    (hread : ∀ j j', inner.Keeps j j' → read j = some a → read j' = some a)
    (ha : part.bind read = some a) : part'.bind read = some a := by
  cases h with
  | same => exact ha
  | edited isPart keeps =>
    obtain rfl := Option.some.inj (hname.symm.trans isPart)
    exact hread _ _ keeps ha
  | leftOut => exact absurd (Option.some.inj hname).symm hinner

end Stored

namespace Predicate

open Stored

variable {part? part'? : String → Option Json} {tag : String} {e : Predicate}

theorem arguments?_of_partKept {arguments : List Predicate}
    (h : PartKept .predicate "args" (part? "args") (part'? "args"))
    (harguments : arguments? part? = some arguments) : arguments? part'? = some arguments := by
  unfold arguments? at harguments ⊢
  generalize part? "args" = part at h harguments
  generalize part'? "args" = part' at h ⊢
  cases h with
  | same => exact harguments
  | edited isPart keeps =>
    obtain rfl := Option.some.inj isPart
    exact keeps arguments harguments
  | leftOut => exact harguments

theorem Formed.kept (h : Formed part? tag e)
    (hkept : ∀ n ∈ (partNames tag).getD [], PartKept .predicate n (part? n) (part'? n)) :
    Formed part'? tag e := by
  have htext {n : String} (hn : n ∈ (partNames tag).getD [])
      (hname : Place.predicate.parts.lookup n = none) : part'? n = part? n :=
    (hkept n hn).eq hname
  have hchild {n : String} {a : Predicate} (hn : n ∈ (partNames tag).getD [])
      (hname : Place.predicate.parts.lookup n = some .predicate)
      (ha : child? part? n = some a) : child? part'? n = some a :=
    (hkept n hn).bind hname (by simp) (fun _ _ keeps => keeps a) ha
  cases h with
  | @literal v value =>
    exact .literal ((hkept "value" (by decide)).bind rfl (by simp) (fun _ _ keeps => keeps v) value)
  | field path =>
    rw [← htext (by decide) rfl] at path
    exact .field path
  | compare token left right =>
    rw [← htext (by decide) rfl] at token
    exact .compare token (hchild (by decide) rfl left) (hchild (by decide) rfl right)
  | logical token left right =>
    rw [← htext (by decide) rfl] at token
    exact .logical token (hchild (by decide) rfl left) (hchild (by decide) rfl right)
  | not operand => exact .not (hchild (by decide) rfl operand)
  | call kind ofTarget ofArguments =>
    rw [← htext (by decide) rfl] at kind
    exact .call kind (hchild (by decide) rfl ofTarget)
      (arguments?_of_partKept (hkept "args" (by decide)) ofArguments)

end Predicate

namespace Literal

theorem read?_object (level : Stored.Level) (members : List (String × Json)) :
    read? level (.object members) =
      ((members.lookup "kind").bind (Stored.choice? level)).bind fun kind =>
        ofKind? kind (members.lookup "value") := by
  cases hkind : members.lookup "kind" <;> simp [read?, hkind]

/-- Of an object only the constants of enumerations are read. -/
theorem ofKind?_object_congr {members members' : List (String × Json)}
    (htype : members'.lookup "type_name" = members.lookup "type_name")
    (hlabel : members'.lookup "label" = members.lookup "label") (kind : String) :
    ofKind? kind (some (.object members')) = ofKind? kind (some (.object members)) := by
  simp only [ofKind?, Option.bind_eq_bind, Option.bind_some, Json.member?, htype, hlabel]
  rfl

theorem ofKind?_of_partKept {kind : String} {v : Literal} {part part' : Option Json}
    (h : Stored.PartKept .constant "value" part part') (hv : ofKind? kind part = some v) :
    ofKind? kind part' = some v := by
  cases h with
  | same => exact hv
  | edited isPart keeps =>
    obtain rfl := Option.some.inj isPart
    exact keeps kind v hv

end Literal

namespace Stored

/-- An object all of whose parts are kept is read as before. -/
theorem Place.keeps_object {members members' : List (String × Json)} : ∀ {place : Place},
    (∀ n ∈ place.knownNames members, PartKept place n (members.lookup n) (members'.lookup n)) →
    place.Keeps (.object members) (.object members')
  | .predicate, hkept => by
    intro e he
    have htype := (hkept "type" List.mem_cons_self).eq rfl
    obtain ⟨tag, htag, hformed⟩ := Predicate.reading_object_iff.mp he
    refine Predicate.reading_object_iff.mpr
      ⟨tag, by rw [htype, htag], hformed.kept fun n hn => hkept n ?_⟩
    exact List.mem_cons_of_mem _ (by rwa [htag])
  | .arguments, _ => fun _ hes => nomatch hes
  | .constant, hkept => by
    intro v hv
    have hkind := (hkept "kind" (by simp [knownNames])).eq rfl
    rw [Literal.read?_object] at hv ⊢
    obtain ⟨kind, hread, hv⟩ := Option.bind_eq_some_iff.mp hv
    rw [hkind, hread]
    exact Literal.ofKind?_of_partKept (hkept "value" (by simp [knownNames])) hv
  | .member, hkept => by
    intro kind v hv
    have htype := (hkept "type_name" (by simp [knownNames])).eq rfl
    have hlabel := (hkept "label" (by simp [knownNames])).eq rfl
    rwa [Literal.ofKind?_object_congr htype hlabel]

theorem Place.keeps_array {before after : List Json} {item item' : Json}
    (h : Place.predicate.Keeps item item') :
    Place.arguments.Keeps (.array (before ++ item :: after))
      (.array (before ++ item' :: after)) := by
  intro es hes
  simp only [Predicate.reading, Predicate.readings_eq_map, List.map_append, List.map_cons,
    List.mapM_append, List.mapM_cons, Option.bind_eq_bind, Option.bind_eq_some_iff] at hes ⊢
  obtain ⟨front, hfront, rest, ⟨e, he, hrest⟩, hjoin⟩ := hes
  exact ⟨front, hfront, rest, ⟨e, h e he, hrest⟩, hjoin⟩

/-- No change alters what a value is read as in its place. -/
theorem Edit.keeps {place : Place} {j j' : Json} (h : Edit place j j') : place.Keeps j j' := by
  induction h with
  | leaveOut empty =>
    refine Place.keeps_object fun n _ => ?_
    rw [Json.lookup_filter_ne]
    split
    · next hn =>
      subst hn
      rw [empty]
      exact .leftOut
    · exact .same _
  | add name unknown =>
    refine Place.keeps_object fun n hn => ?_
    rw [Json.lookup_insertMember, if_neg]
    · exact .same _
    · rintro rfl
      exact unknown hn
  | inMember name isPart found _ ih =>
    refine Place.keeps_object fun n _ => ?_
    rw [Json.lookup_insertMember]
    split
    · next hn =>
      subst hn
      rw [found]
      exact .edited isPart ih
    · exact .same _
  | inItem _ ih => exact Place.keeps_array ih

/-- A change at the root leaves the tag where it is. -/
theorem Edit.tagJson? {j j' : Json} (h : Edit .predicate j j') :
    Predicate.tagJson? j' = Predicate.tagJson? j := by
  cases h with
  | leaveOut => exact (Json.lookup_filter_ne _ "args" "type").trans (if_neg (by decide))
  | add name unknown =>
    refine (Json.lookup_insertMember ..).trans (if_neg ?_)
    rintro rfl
    exact unknown List.mem_cons_self
  | inMember name isPart =>
    refine (Json.lookup_insertMember ..).trans (if_neg ?_)
    rintro rfl
    contradiction

end Stored

namespace Predicate

variable {e : Predicate} {j j' : Json}

theorem ofJson?_of_edit (h : Stored.Edit .predicate j j') (hj : ofJson? j = some e) :
    ofJson? j' = some e := by
  unfold ofJson? at hj ⊢
  rw [h.tagJson?]
  simp only [Option.bind_eq_bind, Option.bind_eq_some_iff] at hj ⊢
  obtain ⟨tagged, htagged, tag, htag, hread⟩ := hj
  exact ⟨tagged, htagged, tag, htag, h.keeps e hread⟩

/-- A predicate whose paths were given as texts and whose constants can be stored is read back from
its stored form, and also after any number of changes: empty lists of arguments left out, members
added that are not asked for. -/
theorem ofJson?_of_edits
    (he : e.Each (fun p => ∃ text, p = .ofText text) Literal.IsStorable) :
    ofJson? e.toJson = some e ∧
      ∀ j, Relation.ReflTransGen (Stored.Edit .predicate) e.toJson j → ofJson? j = some e := by
  have hstored := ofJson?_toJson he
  refine ⟨hstored, fun j edits => ?_⟩
  induction edits with
  | refl => exact hstored
  | tail _ edit ih => exact ofJson?_of_edit edit ih

/-- A leap second of a five-digit year and a path with an empty segment; the empty list of
arguments is left out, and a note stands beside the constant. -/
theorem ofJson?_of_edits_noted :
    let leap : Time.Instant :=
      ⟨⟨12016, 12, 31, by decide⟩, ⟨86399, by decide⟩, ⟨1500000000, by decide⟩, by decide⟩
    let lines : Predicate := .any (.ofPath "Lines//Amount")
    let since : Predicate := .compare .ge .element (.literal (.instant leap))
    let e : Predicate := .logical .and lines since
    let any : Json := .object [("kind", .string "any"),
      ("target", .object [("path", .string "Lines//Amount"), ("type", .string "field")]),
      ("type", .string "call")]
    let constant : Json := .object [("kind", .string "datetime"), ("note", .null),
      ("value", .string "+12016-12-31T23:59:60.500Z")]
    let element : Json := .object [("path", .string ""), ("type", .string "field")]
    let right : Json := .object [("left", element), ("op", .string "ge"),
      ("right", .object [("type", .string "literal"), ("value", constant)]),
      ("type", .string "compare")]
    let j : Json := .object [("left", any), ("op", .string "and"), ("right", right),
      ("type", .string "logical")]
    e.Each (fun p => ∃ text, p = .ofText text) Literal.IsStorable ∧
      Relation.ReflTransGen (Stored.Edit .predicate) e.toJson j ∧ ofJson? j = some e := by
  intro leap lines since e any constant element right j
  have he : e.Each (fun p => ∃ text, p = .ofText text) Literal.IsStorable :=
    ⟨⟨⟨"Lines//Amount", rfl⟩, trivial⟩, ⟨"", rfl⟩, trivial⟩
  have hlines : Stored.Edit .predicate lines.toJson any := .leaveOut rfl
  have htext : (Literal.instant leap).toJson =
      .object [("kind", .string "datetime"), ("value", .string "+12016-12-31T23:59:60.500Z")] := by
    dsimp only [leap]
    rfl
  have hconstant : Stored.Edit .constant (Literal.instant leap).toJson constant := by
    rw [htext]
    exact .add "note" (by simp [Stored.Place.knownNames]) .null
  have hsince : Stored.Edit .predicate since.toJson right :=
    .inMember "right" rfl rfl (.inMember "value" rfl rfl hconstant)
  have hfirst : Stored.Edit .predicate e.toJson (.object [("left", any), ("op", .string "and"),
      ("right", since.toJson), ("type", .string "logical")]) :=
    .inMember "left" rfl rfl hlines
  have edits : Relation.ReflTransGen (Stored.Edit .predicate) e.toJson j :=
    (Relation.ReflTransGen.single hfirst).tail (.inMember "right" rfl rfl hsince)
  exact ⟨he, edits, (ofJson?_of_edits he).2 j edits⟩

end Predicate

end RecordQuery
