import RecordQuery.Proofs.Clause.Accepted
import RecordQuery.Proofs.Clause.Distinct
import RecordQuery.Proofs.Clause.Spelling
import RecordQuery.Proofs.Predicate.Chain
import RecordQuery.Proofs.Predicate.Expansion

/-!
# Clauses read back

The text of a predicate reads as what the predicate says, with its chains of one connective
bracketed to the left, and as nothing else.
-/
namespace RecordQuery

namespace Clause

/-- The names of a path between slashes. -/
def pathText (p : Path) : List Char := ['/'].intercalate (p.segments.map String.toList)

def equationExpression (style : BooleanStyle) (member : List Char) (v : Literal) : Expression :=
  .binary (.comparison .eq) (.member member) (.constant (v.token style))

/-- One of the values is the member's; there is none in an empty list. -/
def alternatives (style : BooleanStyle) (member : List Char) : List Literal → Expression
  | [] => .constant (.word "false".toList)
  | v :: vs =>
    vs.foldl (fun e v => .binary (.connective .or) e (equationExpression style member v))
      (equationExpression style member v)

/-- The values in the arguments of a membership test, each as often as it is there. -/
def listed : List Predicate → List Literal
  | [] => []
  | .literal v :: arguments => v :: listed arguments
  | _ :: arguments => listed arguments

/-- The values of a membership test. A value counts only once. -/
def values (arguments : List Predicate) : List Literal :=
  (listed arguments).eraseDupsBy Literal.same

/-- What a call on a member says. The calls that are left over have no clause. -/
def callExpression (style : BooleanStyle) (member : List Char) : Test → List Predicate → Expression
  | .contains, [.literal v] =>
    .function "contains".toList (.member member) (.constant (v.token style))
  | .startsWith, [.literal v] =>
    .function "startswith".toList (.member member) (.constant (v.token style))
  | .endsWith, [.literal v] =>
    .function "endswith".toList (.member member) (.constant (v.token style))
  | .any, [] => .any member
  | .anyMatch, [.literal v] => .anyWhere member ['x'] (equationExpression style ['x'] v)
  | .inList, arguments => alternatives style member (values arguments)
  | _, _ => .constant (.word [])

/-- What a predicate says, node by node, if it has a clause. -/
def expression (style : BooleanStyle) : Predicate → Expression
  | .literal v => .constant (v.token style)
  | .field p => .member (pathText p)
  | .compare op a b => .binary (.comparison op) (expression style a) (expression style b)
  | .logical op a b => .binary (.connective op) (expression style a) (expression style b)
  | .not a => .not (expression style a)
  | .call t (.field p) arguments => callExpression style (pathText p) t arguments
  | .call .. => .constant (.word [])

/-- Expressions that differ only in how chains of one connective are bracketed. -/
inductive Regrouped : Expression → Expression → Prop
  | refl (a : Expression) : Regrouped a a
  | symm {a b : Expression} (h : Regrouped a b) : Regrouped b a
  | trans {a b c : Expression} (h : Regrouped a b) (h' : Regrouped b c) : Regrouped a c
  | assoc (op : Connective) (a b c : Expression) :
      Regrouped (.binary (.connective op) a (.binary (.connective op) b c))
        (.binary (.connective op) (.binary (.connective op) a b) c)
  | connective (op : Connective) {a a' b b' : Expression} (left : Regrouped a a')
      (right : Regrouped b b') :
      Regrouped (.binary (.connective op) a b) (.binary (.connective op) a' b')
  | not {a a' : Expression} (operand : Regrouped a a') : Regrouped (.not a) (.not a')

theorem regrouped_join (style : BooleanStyle) (op : Connective) (a : Predicate) :
    ∀ b, Regrouped (expression style (a.join op b))
      (.binary (.connective op) (expression style a) (expression style b))
  | .logical op' b c => by
    by_cases h : op' = op
    · subst h
      rw [Predicate.join_logical]
      exact .trans (.connective op' (regrouped_join style op' a b) (.refl _))
        (.symm (.assoc op' _ _ _))
    · simp only [Predicate.join, h, if_false]
      exact .refl _
  | .literal _ | .field _ | .compare .. | .not _ | .call .. => .refl _

theorem regrouped_leftward (style : BooleanStyle) :
    ∀ e : Predicate, Regrouped (expression style e.leftward) (expression style e)
  | .logical op a b =>
    .trans (regrouped_join style op _ _)
      (.connective op (regrouped_leftward style a) (regrouped_leftward style b))
  | .not a => .not (regrouped_leftward style a)
  | .literal _ | .field _ | .compare .. | .call .. => .refl _

/-- How tightly the text of a predicate holds together where no connective is around it. -/
def levelOf : Predicate → Nat
  | .compare op _ _ => (Operator.comparison op).level
  | .logical op _ _ => (Operator.connective op).level
  | .not _ => negationLevel
  | .call .inList _ arguments =>
    if (values arguments).length = 1 then (Operator.comparison .eq).level else termLevel
  | _ => termLevel

section Operands

variable {style : BooleanStyle} (hstyle : style.IsDotted)

include hstyle in
theorem reads_operand {a : Predicate} (ha : IsOperand a)
    (h : a.Each Path.IsNamed Literal.IsDotted) :
    Reads termLevel (operandText style a) (expression style a) := by
  cases ha with
  | literal v => exact reads_constant hstyle h
  | field named => exact reads_path h named

include hstyle in
theorem reads_equation {p : Path} (hp : p.IsNamed) (named : p.isCurrent = false) {v : Literal}
    (hv : v.IsDotted) :
    Reads (Operator.comparison .eq).level (equation style p.chars v)
      (equationExpression style p.chars v) :=
  .binary rfl ((reads_path hp named).mono (by decide)) ((reads_constant hstyle hv).mono (by decide))

theorem flatten_intersperse {α : Type} (separator x : List α) (xs : List (List α)) :
    ((x :: xs).intersperse separator).flatten = x ++ (xs.map (separator ++ ·)).flatten := by
  induction xs generalizing x with
  | nil => simp
  | cons y ys ih => simp [ih y]

include hstyle in
theorem reads_alternatives {p : Path} (hp : p.IsNamed) (named : p.isCurrent = false)
    {vs : List Literal} (hv : ∀ v ∈ vs, v.IsDotted) {text : List Char} {e : Expression}
    (h : Reads (Operator.connective .or).level text e) :
    Reads (Operator.connective .or).level
      (text ++ ((vs.map (equation style p.chars)).map (tokenChars "or" ++ ·)).flatten)
      (vs.foldl (fun e v => .binary (.connective .or) e (equationExpression style p.chars v))
        e) := by
  induction vs generalizing text e with
  | nil => simpa using h
  | cons v vs ih =>
    have hv' := (reads_equation hstyle hp named (hv v (by simp))).mono (m := 1) (by decide)
    have hfirst : Reads _ (text ++ tokenChars "or" ++ _) _ := h.binary rfl hv'
    have := ih (fun u hu => hv u (by simp [hu])) hfirst
    simpa using this

include hstyle in
/-- A membership test reads as one equation, or else needs no parentheses. -/
theorem reads_membership {p : Path} (hp : p.IsNamed) (named : p.isCurrent = false)
    {vs : List Literal} (hv : ∀ v ∈ vs, v.IsDotted) :
    Reads (if vs.length = 1 then (Operator.comparison .eq).level else termLevel)
      (membership style p.chars vs) (alternatives style p.chars vs) := by
  match vs, hv with
  | [], _ => exact reads_constantWord (by simp)
  | [v], hv => exact reads_equation hstyle hp named (hv v (by simp))
  | v :: w :: vs, hv =>
    have hfirst := (reads_equation hstyle hp named (hv v (by simp))).mono (m := 0) (by decide)
    have hrest : ∀ u ∈ w :: vs, u.IsDotted := fun u hu => hv u (List.mem_cons_of_mem _ hu)
    have := reads_alternatives hstyle hp named hrest hfirst
    simp only [List.length_cons, membership, alternatives]
    rw [List.map_cons, flatten_intersperse]
    exact this.parenthesized

end Operands

@[simp] theorem listed_map (vs : List Literal) : listed (vs.map .literal) = vs := by
  induction vs with
  | nil => rfl
  | cons v vs ih => rw [List.map_cons, listed, ih]

/-- The printer leaves out the values that do not count. -/
theorem values_map (vs : List Literal) : values (vs.map .literal) = distinct vs := by
  rw [values, listed_map, distinct_eq_eraseDupsBy]

theorem levelOf_inList (p : Path) (vs : List Literal) :
    levelOf (.inList (.field p) vs) =
      if (distinct vs).length = 1 then (Operator.comparison .eq).level else termLevel := by
  rw [Predicate.inList, levelOf, values_map]

theorem expression_inList (style : BooleanStyle) (p : Path) (vs : List Literal) :
    expression style (.inList (.field p) vs) = alternatives style p.chars (distinct vs) := by
  rw [Predicate.inList, expression, callExpression, values_map]
  rfl

theorem levelOf_of_isSelfDelimited {a : Predicate} (ha : Accepted a) (h : isSelfDelimited a) :
    levelOf a = termLevel := by
  cases ha with
  | inList named vs =>
    rw [levelOf_inList, if_neg]
    simpa [isSelfDelimited, Predicate.inList, distinctLiterals?_map] using h
  | @text t ht p named s => cases t <;> simp_all [levelOf, Test.isText]
  | _ => simp_all [levelOf, isSelfDelimited, Predicate.any, Predicate.anyMatch]

theorem level_lt_levelOf {op : Connective} {e : Predicate} (h : ∀ o a b, e ≠ .logical o a b) :
    (Operator.connective op).level + 1 ≤ levelOf e := by
  have hop : (Operator.connective op).level ≤ 1 := by cases op <;> decide
  have hcomparison (o : Comparison) : 2 ≤ (Operator.comparison o).level := by cases o <;> decide
  cases e with
  | logical o a b => exact absurd rfl (h o a b)
  | compare o a b =>
    have := hcomparison o
    simp only [levelOf]
    omega
  | call t target arguments =>
    have := hcomparison .eq
    cases t with
    | inList =>
      simp only [levelOf, termLevel]
      split <;> omega
    | _ =>
      simp only [levelOf, termLevel]
      omega
  | _ =>
    simp only [levelOf, negationLevel, termLevel]
    omega

/-- A connective inside the other one is put in parentheses. -/
theorem chars_logical (style : BooleanStyle) (parent : Option Connective) (op : Connective)
    (a b : Predicate) :
    chars style parent (.logical op a b) =
      (chars style none (.logical op a b)).map
        (if parent.any (· ≠ op) then parenthesized else id) := by
  simp only [chars, bind, Except.bind]
  cases chars style (some op) a with
  | error _ => rfl
  | ok _ =>
    cases chars style (some op) b with
    | error _ => rfl
    | ok _ =>
      by_cases hp : parent.any (· ≠ op)
      · simp only [hp, if_true, Except.map, pure, Except.pure, Option.any_none, Bool.false_eq_true,
          if_false]
      · simp only [hp, if_false, Except.map, pure, Except.pure, Option.any_none,
          Bool.false_eq_true, id]

theorem chars_parent {style : BooleanStyle} {e : Predicate} (h : ∀ o a b, e ≠ .logical o a b)
    (parent : Option Connective) : chars style parent e = chars style none e := by
  cases e with
  | logical o a b => exact absurd rfl (h o a b)
  | _ => rfl

section Nodes

variable {style : BooleanStyle} {e : Predicate}

/-- The text of a predicate reads as what it says, bracketed to the left. -/
def IsReadable (style : BooleanStyle) (e : Predicate) : Prop :=
  ∀ text, chars style none e = .ok text →
    Reads (levelOf e) text (expression style e.leftward)

/-- A predicate that is no chain of the connective around it is one operand of it. -/
theorem IsReadable.operand (h : IsReadable style e) {op : Connective}
    (hc : e.isChain op = false) {text : List Char} (ht : chars style (some op) e = .ok text) :
    Reads ((Operator.connective op).level + 1) text (expression style e.leftward) := by
  by_cases he : ∃ o a b, e = .logical o a b
  · obtain ⟨o, a, b, rfl⟩ := he
    have hne : op ≠ o := by simpa [Predicate.isChain, eq_comm] using hc
    rw [chars_logical] at ht
    obtain ⟨inner, hi, rfl⟩ := map_eq_ok_iff.mp ht
    simp only [Option.any_some, hne, ne_eq, not_false_eq_true, decide_true, if_true]
    refine ((h inner hi).mono (Nat.zero_le _)).parenthesized.mono ?_
    cases op <;> decide
  · push Not at he
    rw [chars_parent he] at ht
    exact (h text ht).mono (level_lt_levelOf he)

/-- The first operand of a connective may be a chain of it. -/
theorem IsReadable.first (h : IsReadable style e) {op : Connective} {text : List Char}
    (ht : chars style (some op) e = .ok text) :
    Reads (Operator.connective op).level text (expression style e.leftward) := by
  by_cases hc : e.isChain op
  · cases e with
    | logical o a b =>
      obtain rfl : o = op := by simpa [Predicate.isChain] using hc
      rw [chars_logical] at ht
      obtain ⟨inner, hi, rfl⟩ := map_eq_ok_iff.mp ht
      simpa [levelOf] using h inner hi
    | _ => simp [Predicate.isChain] at hc
  · exact (h.operand (by simpa using hc) ht).mono (Nat.le_succ _)

/-- The text of a predicate behind a connective joins the chain in front of it. -/
def IsJoinable (style : BooleanStyle) (e : Predicate) : Prop :=
  ∀ op acc front text, chars style (some op) e = .ok text →
    Reads (Operator.connective op).level front (expression style acc) →
    Reads (Operator.connective op).level (front ++ tokenChars op.token ++ text)
      (expression style (acc.join op e.leftward))

theorem IsReadable.join_operand (h : IsReadable style e) {op : Connective}
    (hc : e.isChain op = false) {acc : Predicate} {front text : List Char}
    (ht : chars style (some op) e = .ok text)
    (hf : Reads (Operator.connective op).level front (expression style acc)) :
    Reads (Operator.connective op).level (front ++ tokenChars op.token ++ text)
      (expression style (acc.join op e.leftward)) := by
  rw [Predicate.join_of_not_isChain acc (by rw [Predicate.isChain_leftward, hc])]
  exact hf.binary (token_connective op) (h.operand hc ht)

theorem IsReadable.isJoinable (h : IsReadable style e) (he : ∀ o a b, e ≠ .logical o a b) :
    IsJoinable style e := by
  intro op acc front text ht hf
  refine h.join_operand ?_ ht hf
  cases e with
  | logical o a b => exact absurd rfl (he o a b)
  | _ => rfl

theorem IsJoinable.logical {op : Connective} {a b : Predicate} (ha : IsJoinable style a)
    (hb : IsJoinable style b) (h : IsReadable style (.logical op a b)) :
    IsJoinable style (.logical op a b) := by
  intro op' acc front text ht hf
  by_cases hop : op = op'
  · subst hop
    obtain ⟨ta, hta, ht⟩ := bind_eq_ok_iff.mp ht
    obtain ⟨tb, htb, ht⟩ := bind_eq_ok_iff.mp ht
    obtain rfl : ta ++ tokenChars op.token ++ tb = text := by simpa using Except.ok.inj ht
    have := hb op _ _ tb htb (ha op acc front ta hta hf)
    simpa [Predicate.leftward, Predicate.join_assoc] using this
  · exact h.join_operand (by simp [Predicate.isChain, hop]) ht hf

theorem IsReadable.logical {op : Connective} {a b : Predicate} (ha : IsReadable style a)
    (hb : IsJoinable style b) : IsReadable style (.logical op a b) := by
  intro text ht
  obtain ⟨ta, hta, ht⟩ := bind_eq_ok_iff.mp ht
  obtain ⟨tb, htb, ht⟩ := bind_eq_ok_iff.mp ht
  obtain rfl : ta ++ tokenChars op.token ++ tb = text := Except.ok.inj ht
  exact hb op _ _ tb htb (ha.first hta)

theorem IsReadable.not {a : Predicate} (ha : IsReadable style a) (hs : Accepted a) :
    IsReadable style (.not a) := by
  intro text ht
  obtain ⟨inner, hi, ht⟩ := bind_eq_ok_iff.mp ht
  obtain rfl := Except.ok.inj ht
  refine .not ?_
  split
  · next hd =>
    have := ha inner hi
    rw [levelOf_of_isSelfDelimited hs hd] at this
    exact this.mono (by decide)
  · exact ((ha inner hi).mono (Nat.zero_le _)).parenthesized.mono (by decide)

theorem isIdentifier_functionName {t : Test} (ht : t.isText) :
    isIdentifier (functionName t).toList := by
  cases t <;> first | decide | contradiction

theorem expression_text {t : Test} (ht : t.isText) (p : Path) (s : String) :
    expression style (.call t (.field p) [.literal (.string s)]) =
      .function (functionName t).toList (.member p.chars)
        (.constant (.quoted [] s.toList)) := by
  cases t <;> first | rfl | contradiction

theorem isReadable_text {t : Test} (ht : t.isText) {p : Path} (hp : p.IsNamed)
    (named : p.isCurrent = false) (s : String) :
    IsReadable style (.call t (.field p) [.literal (.string s)]) := by
  intro text h
  rw [chars_text ht named] at h
  obtain rfl := Except.ok.inj h
  have hl : levelOf (.call t (.field p) [.literal (.string s)]) = termLevel := by
    cases t <;> first | rfl | contradiction
  rw [hl, Predicate.leftward_call, expression_text ht]
  exact .function (isIdentifier_functionName ht) ((reads_path hp named).mono (Nat.zero_le _))
    ((reads_string s.toList).mono (Nat.zero_le _))

/-- Every predicate that has a clause reads back, alone and behind a connective. -/
theorem Accepted.isReadable (he : Accepted e) (hstyle : style.IsDotted)
    (h : e.Each Path.IsNamed Literal.IsDotted) : IsReadable style e ∧ IsJoinable style e := by
  have leaf {e : Predicate} (h : IsReadable style e) (hn : ∀ o a b, e ≠ .logical o a b) :
      IsReadable style e ∧ IsJoinable style e := ⟨h, h.isJoinable hn⟩
  -- the second operand of a connective may be a chain of it, so it must join what is in front
  induction he with
  | literal v =>
    refine leaf (fun text ht => ?_) (by simp)
    obtain rfl := Except.ok.inj ht
    exact reads_constant hstyle h
  | field named =>
    refine leaf (fun text ht => ?_) (by simp)
    rw [chars_field named] at ht
    obtain rfl := Except.ok.inj ht
    exact reads_path h named
  | compare op left right =>
    refine leaf (fun text ht => ?_) (by simp)
    rw [chars_compare left right] at ht
    obtain rfl := Except.ok.inj ht
    have ha := reads_operand hstyle left h.1
    have hb := reads_operand hstyle right h.2
    exact .binary (token_comparison op) (ha.mono (by cases op <;> decide))
      (hb.mono (by cases op <;> decide))
  | logical op _ _ iha ihb =>
    have hread : IsReadable style (.logical op _ _) := (iha h.1).1.logical (ihb h.2).2
    exact ⟨hread, (iha h.1).2.logical (ihb h.2).2 hread⟩
  | not operand ih => exact leaf ((ih h).1.not operand) (by simp)
  | text isText named s => exact leaf (isReadable_text isText h.1 named s) (by simp)
  | any named =>
    refine leaf (fun text ht => ?_) (by simp [Predicate.any])
    rw [chars_any named] at ht
    obtain rfl := Except.ok.inj ht
    have hw := isPath_chars h.1 named
    exact .any hw (.of_isPath hw)
  | @anyMatch p named v =>
    refine leaf (fun text ht => ?_) (by simp [Predicate.anyMatch])
    rw [chars_anyMatch named] at ht
    obtain rfl := Except.ok.inj ht
    have hw := isPath_chars h.1 named
    have hx : Path.IsNamed ⟨["x"]⟩ := by decide
    have hcondition := reads_equation hstyle hx rfl h.2.1
    have hchars : Path.chars ⟨["x"]⟩ = ['x'] := by simp [Path.chars]
    rw [hchars] at hcondition
    have hid : isIdentifier ['x'] := by decide
    have := Reads.anyWhere hw (.of_isPath hw) hid (hcondition.mono (Nat.zero_le _))
    change Reads termLevel _ (.anyWhere p.chars ['x'] (equationExpression style ['x'] v))
    simpa [equation, tokenChars] using this
  | inList named vs =>
    refine leaf (fun text ht => ?_) (by simp [Predicate.inList])
    rw [chars_inList named] at ht
    obtain rfl := Except.ok.inj ht
    rw [levelOf_inList, Predicate.inList, Predicate.leftward_call, ← Predicate.inList,
      expression_inList]
    exact reads_membership hstyle h.1 named fun v hv => h.inList v (mem_of_mem_distinct hv)

theorem isReading_leftward (hstyle : style.IsDotted) (he : e.Each Path.IsNamed Literal.IsDotted)
    {clause : String} (h : e.clause style = .ok clause) :
    IsReading clause.toList (expression style e.leftward) := by
  obtain ⟨text, ht, rfl⟩ := map_eq_ok_iff.mp h
  have hr := ((Accepted.of_chars ht).isReadable hstyle he).1 text ht
  rw [String.toList_ofList]
  exact (hr.mono (Nat.zero_le _)).isReading

end Nodes

end Clause

open Clause in
/-- The clause of a predicate reads as what the predicate says, up to the bracketing of chains of
one connective, and it has no other reading. -/
theorem Predicate.exists_unique_reading {style : BooleanStyle} (hstyle : style.IsDotted)
    {e : Predicate} (he : e.Each Path.IsNamed Literal.IsDotted) {clause : String}
    (h : e.clause style = .ok clause) :
    ∃ t, IsReading clause.toList t ∧ Regrouped t (expression style e) ∧
      ∀ u, IsReading clause.toList u → u = t := by
  have hreading := isReading_leftward hstyle he h
  exact ⟨_, hreading, regrouped_leftward style e, fun u hu => hu.unique hreading⟩

open Clause in
theorem Predicate.exists_unique_reading_nested :
    let style := BooleanStyle.labels "Entities.NoYes" "Yes" "No"
    let e : Predicate := .logical .and
      (.not (.compare .eq (.field ⟨["Open"]⟩) (.literal (.boolean true))))
      (.logical .or (.field ⟨["Rank"]⟩)
        (.inList (.field ⟨["Site", "Name"]⟩) [.integer 1, .string "x) or ('y"]))
    let clause := "not (Open eq Entities.NoYes'Yes') and " ++
      "(Rank or (Site/Name eq 1 or Site/Name eq 'x) or (''y'))"
    e.clause style = .ok clause ∧
      ∃ t, IsReading clause.toList t ∧ Regrouped t (expression style e) ∧
        ∀ u, IsReading clause.toList u → u = t := by
  intro style e clause
  have hclause : e.clause style = .ok clause := by rfl
  have hstyle : style.IsDotted := by decide
  have he : e.Each Path.IsNamed Literal.IsDotted := by decide
  exact ⟨hclause, exists_unique_reading hstyle he hclause⟩

end RecordQuery
