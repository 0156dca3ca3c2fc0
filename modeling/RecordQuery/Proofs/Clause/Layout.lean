import RecordQuery.Proofs.Clause.Accepted
import RecordQuery.Proofs.Clause.Distinct
import RecordQuery.Proofs.Predicate.Constituents
import RecordQuery.Proofs.Query.Segment
import RecordQuery.Proofs.Text.Layout

/-!
# Strings in clauses and keys

Where the strings of a predicate stand in its clause, and those of a key in its segment: each in
quotes of its own, which the scanner reads from the first to the last and no further. All other
quotes belong to names that are written as they are given, so without any in the names a reader who
knows nothing of the predicate finds its strings and no others.
-/
namespace RecordQuery

/-! ## What is written of a predicate -/

/-- The label a boolean is written with. -/
def BooleanStyle.contents : BooleanStyle → Bool → List (List Char)
  | .native, _ => []
  | .labels _ trueLabel falseLabel, b => [(if b then trueLabel else falseLabel).toList]

def BooleanStyle.typeNames : BooleanStyle → List (List Char)
  | .native => []
  | .labels typeName _ _ => [typeName.toList]

namespace Literal

/-- The string or label in a constant. -/
def contents (style : BooleanStyle) : Literal → List (List Char)
  | .string s => [s.toList]
  | .boolean b => style.contents b
  | .member _ label => [label.toList]
  | .integer _ | .real _ | .instant _ | .null => []

def typeNames (style : BooleanStyle) : Literal → List (List Char)
  | .boolean _ => style.typeNames
  | .member typeName _ => [typeName.toList]
  | .string _ | .integer _ | .real _ | .instant _ | .null => []

end Literal

namespace Predicate

/-- The strings and labels in a predicate from left to right; of equal values in a list only the
first is written. -/
def contents (style : BooleanStyle) : Predicate → List (List Char)
  | .literal v => v.contents style
  | .field _ => []
  | .compare _ a b | .logical _ a b => contents style a ++ contents style b
  | .not a => contents style a
  | .call _ _ arguments =>
    (Clause.distinct (arguments.filterMap literal?)).flatMap (·.contents style)

/-- The paths and the type names in a predicate. -/
def names (style : BooleanStyle) : Predicate → List (List Char)
  | .literal v => v.typeNames style
  | .field p => [p.chars]
  | .compare _ a b | .logical _ a b => names style a ++ names style b
  | .not a => names style a
  | .call _ target arguments =>
    names style target ++ (arguments.filterMap literal?).flatMap (·.typeNames style)

end Predicate

namespace Key

/-- The names in a key segment: the parts of the key are named as they are given, and the names of
types are escaped. -/
def names (style : BooleanStyle) (keys : List (String × Literal)) : List (List Char) :=
  keys.flatMap fun k => k.1.toList :: (k.2.typeNames style).map escape

def contents (style : BooleanStyle) (keys : List (String × Literal)) : List (List Char) :=
  keys.flatMap fun k => k.2.contents style

end Key

open Text.Quoted (quote scan? Layout)

/-! ## Constants -/

section Constants

variable {names contents contents' : List (List Char)} {text text' w : List Char}
  {style : BooleanStyle}

theorem Clause.IsWord.quote_not_mem (hw : Clause.IsWord w) : '\'' ∉ w :=
  fun hq => absurd (hw _ hq) (by decide)

theorem layout_memberText (typeName label : String) :
    Layout [typeName.toList] [label.toList] (memberText typeName label) :=
  .name List.mem_cons_self (.of_quote label.toList)

theorem BooleanStyle.layout (style : BooleanStyle) (b : Bool) :
    Layout style.typeNames (style.contents b) (style.text b) := by
  cases style with
  | native => exact .of_word (Clause.isBareWord_native b).2.quote_not_mem
  | labels typeName trueLabel falseLabel => exact layout_memberText typeName _

theorem Literal.layout (style : BooleanStyle) (v : Literal) :
    Layout (v.typeNames style) (v.contents style) (v.text style) := by
  cases v with
  | string s => exact .of_quote s.toList
  | integer i => exact .of_word (Clause.isNumeric_ofInt i).2.quote_not_mem
  | real x => exact .of_word (Clause.isBareWord_real x).2.quote_not_mem
  | boolean b => exact style.layout b
  | instant t => exact .of_word (Clause.isNumeric_instant t).2.quote_not_mem
  | null => exact .of_word (w := "null".toList) (by decide)
  | member typeName label => exact layout_memberText typeName label

/-! ## Clauses -/

namespace Clause

theorem layout_joined (token : String) (h : Layout names contents text)
    (h' : Layout names contents' text') (ht : '\'' ∉ token.toList) :
    Layout names (contents ++ contents') (text ++ tokenChars token ++ text') := by
  rw [List.append_assoc]
  exact h.join h' (by simp [tokenChars]) (by simp [tokenChars, ht])

theorem layout_parenthesized (h : Layout names contents text) :
    Layout names contents (parenthesized text) :=
  .mark (by decide) (h.append_word (by decide))

theorem layout_operand {a : Predicate} (ha : IsOperand a) :
    Layout (a.names style) (a.contents style) (operandText style a) := by
  cases ha with
  | literal v => exact v.layout style
  | field named => exact .of_name List.mem_cons_self

theorem layout_equation {member : List Char} (hm : member ∈ names) {v : Literal}
    (hv : v.typeNames style ⊆ names) :
    Layout names (v.contents style) (equation style member v) := by
  have h : Layout names (v.contents style) (tokenChars "eq" ++ v.text style) :=
    ((v.layout style).mono hv).word (by decide)
  rw [equation, List.append_assoc]
  exact .name hm h

theorem layout_membership {member : List Char} (hm : member ∈ names) {vs : List Literal}
    (hv : ∀ v ∈ vs, v.typeNames style ⊆ names) :
    Layout names (vs.flatMap (·.contents style)) (membership style member vs) := by
  match vs, hv with
  | [], _ => exact .of_word (w := "false".toList) (by decide)
  | [v], hv => simpa [membership] using layout_equation hm (hv v List.mem_cons_self)
  | v :: w :: vs, hv =>
    exact layout_parenthesized
      (.intersperse (by simp [tokenChars]) (by decide) fun u hu => layout_equation hm (hv u hu))

/-- The names in a call are those of its member and of the types of its arguments. -/
theorem typeNames_subset {t : Test} {target : Predicate} {arguments : List Predicate} {v : Literal}
    (hv : v ∈ arguments.filterMap Predicate.literal?) :
    v.typeNames style ⊆ Predicate.names style (.call t target arguments) :=
  fun _ hw => List.mem_append_right _ (List.mem_flatMap.mpr ⟨v, hv, hw⟩)

theorem chars_mem_names {t : Test} {p : Path} {arguments : List Predicate} :
    p.chars ∈ Predicate.names style (.call t (.field p) arguments) :=
  List.mem_append_left _ (List.mem_singleton_self _)

theorem layout_call {t : Test} {target : Predicate} {arguments : List Predicate}
    (h : call style t target arguments = .ok text) :
    Layout (Predicate.names style (.call t target arguments))
      (Predicate.contents style (.call t target arguments)) text := by
  have hchars : chars style none (.call t target arguments) = .ok text := h
  cases Accepted.of_call h with
  | text isText named s =>
    obtain rfl := Except.ok.inj ((chars_text isText named s).symm.trans hchars)
    have hname : '\'' ∉ (functionName t).toList := by cases t <;> decide
    have hs := (Literal.string s).layout style
    refine .word hname (layout_parenthesized (.name chars_mem_names (.mark (by decide) ?_)))
    exact hs.mono (List.nil_subset _)
  | any named =>
    obtain rfl := Except.ok.inj ((chars_any named).symm.trans hchars)
    exact .name chars_mem_names (.of_word (by decide))
  | @anyMatch p named v =>
    obtain rfl := Except.ok.inj ((chars_anyMatch named v).symm.trans hchars)
    have hcontents : Predicate.contents style (.call .anyMatch (.field p) [.literal v]) =
        v.contents style := List.flatMap_singleton _ v
    have hv : v ∈ [Predicate.literal v].filterMap Predicate.literal? := List.mem_singleton_self v
    rw [hcontents, List.append_assoc, List.append_assoc]
    refine .name chars_mem_names (.word (by decide) (.append_word ?_ (by decide)))
    exact (v.layout style).mono (typeNames_subset hv)
  | inList named vs =>
    obtain rfl := Except.ok.inj ((chars_inList named vs).symm.trans hchars)
    rw [Predicate.contents, Predicate.filterMap_literal]
    refine layout_membership chars_mem_names fun v hv => typeNames_subset ?_
    rw [Predicate.filterMap_literal]
    exact mem_of_mem_distinct hv

/-- The strings of a predicate stand in its clause. -/
theorem layout_chars {e : Predicate} {parent : Option Connective}
    (h : chars style parent e = .ok text) :
    Layout (e.names style) (e.contents style) text := by
  fun_induction chars style parent e generalizing text with
  | case1 _ v =>
    obtain rfl := Except.ok.inj h
    exact v.layout style
  | case2 _ p =>
    obtain ⟨named, rfl⟩ := path_eq_ok_iff.mp h
    exact layout_operand (.field named)
  | case3 _ op a b =>
    obtain ⟨_, ha, h⟩ := bind_eq_ok_iff.mp h
    obtain ⟨_, hb, h⟩ := bind_eq_ok_iff.mp h
    obtain rfl := Except.ok.inj h
    obtain ⟨hleft, rfl⟩ := operand_eq_ok_iff.mp ha
    obtain ⟨hright, rfl⟩ := operand_eq_ok_iff.mp hb
    exact layout_joined op.token ((layout_operand hleft).mono (List.subset_append_left _ _))
      ((layout_operand hright).mono (List.subset_append_right _ _)) (by cases op <;> decide)
  | case4 _ op a b iha ihb =>
    obtain ⟨_, ha, h⟩ := bind_eq_ok_iff.mp h
    obtain ⟨_, hb, h⟩ := bind_eq_ok_iff.mp h
    obtain rfl := Except.ok.inj h
    have hjoined := layout_joined op.token ((iha ha).mono (List.subset_append_left _ _))
      ((ihb hb).mono (List.subset_append_right _ _)) (by cases op <;> decide)
    split
    · exact layout_parenthesized hjoined
    · exact hjoined
  | case5 _ a iha =>
    obtain ⟨_, ha, h⟩ := bind_eq_ok_iff.mp h
    obtain rfl := Except.ok.inj h
    refine .word (w := "not ".toList) (by decide) ?_
    split
    · exact iha ha
    · exact layout_parenthesized (iha ha)
  | case6 _ t target arguments => exact layout_call h

end Clause

/-! ## Keys -/

namespace Key

theorem quote_not_mem_escapeChar {c : Char} (hc : c ≠ '\'') : '\'' ∉ escapeChar c := by
  rcases escapeChar_eq_or c with hescape | ⟨hplain, -⟩
  · have hall : ∀ e ∈ escapes, '\'' ∉ e.1 := by decide
    exact hall _ hescape
  · rw [hplain, List.mem_singleton]
    exact hc.symm

theorem escape_cons (c : Char) (text : List Char) :
    escape (c :: text) = escapeChar c ++ escape text := List.flatMap_cons

theorem escape_double (s : List Char) :
    escape (Text.Quoted.double s) = Text.Quoted.double (escape s) := by
  induction s with
  | nil => rfl
  | cons c s ih =>
    by_cases hc : c = '\''
    · subst hc
      exact congrArg ('\'' :: '\'' :: ·) ih
    · have hplain := Text.Quoted.double_eq_self (quote_not_mem_escapeChar hc)
      rw [Text.Quoted.double_cons hc, escape_cons, escape_cons, Text.Quoted.double_append, hplain,
        ih]

/-- Quotes are not escaped, and no escape holds any. -/
theorem escape_quote (s : List Char) : escape (quote s) = quote (escape s) := by
  have hquote : escape ['\''] = ['\''] := rfl
  rw [quote, escape_cons, escape_append, escape_double, hquote]
  rfl

theorem head?_escape (h : text.head? ≠ some '\'') : (escape text).head? ≠ some '\'' := by
  cases text with
  | nil => simp [escape]
  | cons c text =>
    have hc : c ≠ '\'' := by simpa using h
    have hne : escapeChar c ≠ [] := by
      unfold escapeChar
      split_ifs <;> simp
    rw [escape_cons, List.head?_append_of_ne_nil _ hne]
    exact fun hq => quote_not_mem_escapeChar hc (List.mem_of_head? hq)

/-- Escaping leaves every string in its place. -/
theorem layout_escape (h : Layout names contents text) :
    Layout (names.map escape) (contents.map escape) (escape text) := by
  induction h with
  | empty => exact .empty
  | @mark _ text c plain _ ih =>
    rw [escape_cons]
    exact ih.word (quote_not_mem_escapeChar plain)
  | name named _ ih =>
    rw [escape_append]
    exact .name (List.mem_map_of_mem named) ih
  | string read _ ih =>
    obtain ⟨rfl, hrest⟩ := Text.Quoted.scan?_eq_some_iff.mp read
    rw [escape_append, escape_quote]
    exact .quote _ (head?_escape hrest) ih

theorem layout_entry {keys : List (String × Literal)} {k : String × Literal} (hk : k ∈ keys) :
    Layout (Key.names style keys) ((k.2.contents style).map escape) (entry style k) := by
  have hnames : k.1.toList :: (k.2.typeNames style).map escape ⊆ Key.names style keys :=
    fun w hw => List.mem_flatMap.mpr ⟨k, hk, hw⟩
  have htypes := List.Subset.trans (List.subset_cons_self _ _) hnames
  have htext := (layout_escape (k.2.layout style)).mono htypes
  exact .name (hnames List.mem_cons_self) (.mark (by decide) htext)

theorem layout_segment (style : BooleanStyle) (keys : List (String × Literal)) :
    Layout (Key.names style keys) ((Key.contents style keys).map escape) (segment style keys) := by
  rw [Key.contents, List.map_flatMap]
  refine Clause.layout_parenthesized (.intersperse (by simp) (by decide) fun k hk => ?_)
  exact layout_entry hk

end Key

/-- The scanner reads a quoted string from its first to its last quote, unless one more quote
follows, and it reads nothing else, so no two strings are quoted alike. The strings and labels of a
predicate stand so in its clause, and those of a key, escaped, in its segment. If the names hold no
quotes, these are the strings that are found without knowing any name. -/
theorem strings_stay_quoted (style : BooleanStyle) :
    (∀ s rest, scan? (quote s ++ rest) = some (s, rest) ↔ rest.head? ≠ some '\'') ∧
      (∀ text s rest, scan? text = some (s, rest) → text = quote s ++ rest) ∧
      Function.Injective quote ∧
      (∀ (e : Predicate) clause, e.clause style = .ok clause →
        Layout (e.names style) (e.contents style) clause.toList) ∧
      (∀ keys, ∃ escaped, Layout (Key.names style keys) escaped (Key.segment style keys) ∧
        escaped.map Key.unescape = Key.contents style keys) ∧
      ∀ names contents text, (∀ w ∈ names, '\'' ∉ w) → Layout names contents text →
        ∀ found, Layout [] found text ↔ found = contents := by
  refine ⟨fun s rest => ?_, fun _ _ _ h => (Text.Quoted.scan?_eq_some_iff.mp h).1,
    Text.Quoted.quote_injective, fun e clause h => ?_, fun keys => ?_, ?_⟩
  · simp [Text.Quoted.scan?_eq_some_iff]
  · obtain ⟨text, htext, rfl⟩ := map_eq_ok_iff.mp h
    simpa using Clause.layout_chars htext
  · refine ⟨_, Key.layout_segment style keys, ?_⟩
    have hinverse : Key.unescape ∘ Key.escape = id := funext Key.unescape_escape
    rw [List.map_map, hinverse, List.map_id]
  · intro names contents text hn h found
    have hplain := h.unnamed hn
    exact ⟨fun hfound => hfound.unique hplain, fun he => he ▸ hplain⟩

/-- A string and a label that look like the ends of their own constants. -/
theorem strings_stay_quoted_closing :
    let e : Predicate := .logical .and (.contains (.field ⟨["Name"]⟩) "') or (1 eq 1")
      (.compare .ne (.field ⟨["Status"]⟩) (.literal (.member "Ns.Status" "'")))
    let clause := "contains(Name,''') or (1 eq 1') and Status ne Ns.Status''''"
    e.clause .native = .ok clause ∧
      ∀ found, Layout [] found clause.toList ↔ found = ["') or (1 eq 1".toList, "'".toList] := by
  intro e clause
  have hclause : e.clause .native = .ok clause := by rfl
  have hcontents : e.contents .native = ["') or (1 eq 1".toList, "'".toList] := by rfl
  obtain ⟨-, -, -, hlayout, -, hunique⟩ := strings_stay_quoted .native
  refine ⟨hclause, ?_⟩
  rw [← hcontents]
  exact hunique _ _ _ (by decide) (hlayout e clause hclause)

end Constants

end RecordQuery
