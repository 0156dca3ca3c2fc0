import RecordQuery.Proofs.Clause.Reading
import RecordQuery.Proofs.Predicate.Context
import RecordQuery.Proofs.Predicate.Folding

/-!
# Brackets of a chain

Operands joined by one connective can be bracketed in many ways. All of them have one text, which
is the operands' texts in a row, and one outcome, which is found by trying the operands in a row;
so no larger predicate tells them apart either.
-/
namespace RecordQuery

namespace Predicate

/-- A predicate that joins the operands of a list, in their order, by one connective. -/
inductive Bracketed (op : Connective) : List Predicate → Predicate → Prop
  | one (e : Predicate) : Bracketed op [e] e
  | pair {es fs : List Predicate} {a b : Predicate} (left : Bracketed op es a)
      (right : Bracketed op fs b) : Bracketed op (es ++ fs) (.logical op a b)

theorem Bracketed.ne_nil {op : Connective} {es : List Predicate} {a : Predicate}
    (h : Bracketed op es a) : es ≠ [] := by
  induction h with
  | one e => exact List.cons_ne_nil e []
  | pair _ _ ih _ => exact List.append_ne_nil_of_left_ne_nil ih _

/-- A row of one operand is that operand; a longer one has the connective at its root. -/
theorem Bracketed.eq_singleton_or {op : Connective} {es : List Predicate} {a : Predicate}
    (h : Bracketed op es a) : es = [a] ∨ 2 ≤ es.length ∧ ∃ b c, a = .logical op b c := by
  cases h with
  | one e => exact .inl rfl
  | pair left right =>
    have hleft := List.length_pos_iff.mpr left.ne_nil
    have hright := List.length_pos_iff.mpr right.ne_nil
    refine .inr ⟨?_, _, _, rfl⟩
    rw [List.length_append]
    omega

/-- Brackets of one row differ only if it has more than one operand. -/
theorem Bracketed.eq_or_logical {op : Connective} {es : List Predicate} {a b : Predicate}
    (ha : Bracketed op es a) (hb : Bracketed op es b) :
    a = b ∨ (∃ c d, a = .logical op c d) ∧ ∃ c d, b = .logical op c d := by
  rcases ha.eq_singleton_or with rfl | ⟨hlength, ha⟩
  · rcases hb.eq_singleton_or with hb | ⟨hlength, -⟩
    · exact .inl (List.singleton_inj.mp hb)
    · simp at hlength
  · rcases hb.eq_singleton_or with rfl | ⟨-, hb⟩
    · simp at hlength
    · exact .inr ⟨ha, hb⟩

end Predicate

namespace Evaluation

open Predicate

/-- Tries operands from the left up to the first one that fails or comes out as `stop`. -/
def scan (stop : Bool) (outcome : Predicate → Except Failure Bool) :
    List Predicate → Except Failure Bool
  | [] => .ok !stop
  | e :: es => do if (← outcome e) = stop then return stop else scan stop outcome es

variable {style : BooleanStyle} {scope : Json} {op : Connective}

theorem scan_cons (outcome : Predicate → Except Failure Bool) (e : Predicate)
    (es : List Predicate) :
    scan op.dominant outcome (e :: es) =
      connect op (outcome e) (scan op.dominant outcome es) := by
  rw [scan, connect, Connective.dominant]
  congr 1
  funext x
  split
  · next h => rw [h]; rfl
  · rfl

theorem scan_append (outcome : Predicate → Except Failure Bool) (es fs : List Predicate) :
    scan op.dominant outcome (es ++ fs) =
      connect op (scan op.dominant outcome es) (scan op.dominant outcome fs) := by
  induction es with
  | nil => cases op <;> rfl
  | cons e es ih => rw [List.cons_append, scan_cons, scan_cons, ih, connect_assoc]

theorem scan_singleton (outcome : Predicate → Except Failure Bool) (e : Predicate) :
    scan op.dominant outcome [e] = outcome e := by
  rw [scan_cons]
  cases outcome e with
  | error _ => rfl
  | ok x => cases op <;> cases x <;> rfl

theorem truth_of_bracketed {es : List Predicate} {a : Predicate} (h : Bracketed op es a) :
    truth style a scope = scan op.dominant (fun e => truth style e scope) es := by
  induction h with
  | one e => rw [scan_singleton]
  | pair _ _ iha ihb => rw [truth_logical, iha, ihb, scan_append]

end Evaluation

namespace Clause

open Predicate

variable {style : BooleanStyle} {op : Connective}

/-- The operands' texts in a row, with the connective between them. -/
def row (style : BooleanStyle) (op : Connective) (es : List Predicate) :
    Except Failure (List Char) :=
  (es.mapM (chars style (some op))).map (tokenChars op.token).intercalate

/-- Two texts with the connective between them. -/
def joined (op : Connective) (a b : Except Failure (List Char)) : Except Failure (List Char) := do
  return (← a) ++ tokenChars op.token ++ (← b)

theorem row_singleton (e : Predicate) : row style op [e] = chars style (some op) e := by
  simp only [row, List.mapM_cons, List.mapM_nil]
  cases chars style (some op) e with
  | error _ => rfl
  | ok text => simp [bind, Except.bind, pure, Except.pure, Except.map]

theorem row_cons (e : Predicate) {es : List Predicate} (h : es ≠ []) :
    row style op (e :: es) = joined op (chars style (some op) e) (row style op es) := by
  obtain ⟨f, fs, rfl⟩ := List.exists_cons_of_ne_nil h
  simp only [row, joined, List.mapM_cons]
  cases chars style (some op) e with
  | error _ => rfl
  | ok a =>
    cases chars style (some op) f with
    | error _ => rfl
    | ok b =>
      cases fs.mapM (chars style (some op)) with
      | error _ => rfl
      | ok texts =>
        simp [bind, Except.bind, pure, Except.pure, Except.map, List.intercalate_cons_cons]

theorem joined_assoc (a b c : Except Failure (List Char)) :
    joined op a (joined op b c) = joined op (joined op a b) c := by
  simp [joined]

theorem row_append {es fs : List Predicate} (he : es ≠ []) (hf : fs ≠ []) :
    row style op (es ++ fs) = joined op (row style op es) (row style op fs) := by
  induction es with
  | nil => contradiction
  | cons e es ih =>
    rcases eq_or_ne es [] with rfl | hne
    · rw [row_singleton, ← row_cons e hf]
      rfl
    · rw [List.cons_append, row_cons e (List.append_ne_nil_of_left_ne_nil hne fs), ih hne,
        joined_assoc, row_cons e hne]

theorem chars_some_logical (a b : Predicate) :
    chars style (some op) (.logical op a b) =
      joined op (chars style (some op) a) (chars style (some op) b) := by
  simp [chars, joined]

theorem chars_some_of_bracketed {es : List Predicate} {a : Predicate} (h : Bracketed op es a) :
    chars style (some op) a = row style op es := by
  induction h with
  | one e => rw [row_singleton]
  | pair left right iha ihb =>
    rw [chars_some_logical, iha, ihb, row_append left.ne_nil right.ne_nil]

theorem chars_of_bracketed {es : List Predicate} {a b : Predicate}
    (h : Bracketed op es (.logical op a b)) (parent : Option Connective) :
    chars style parent (.logical op a b) =
      (row style op es).map (if parent.any (· ≠ op) then parenthesized else id) := by
  have hsome : chars style (some op) (.logical op a b) = row style op es :=
    chars_some_of_bracketed h
  rw [chars_logical] at hsome
  rw [chars_logical, ← hsome]
  cases chars style none (.logical op a b) <;> simp [Except.map]

end Clause

open Evaluation in
/-- However the operands of one connective are bracketed, and wherever they stand, the text or its
failure is the same, and so is the outcome on every record. The operands' own outcome is that of
trying them from the left, up to the first false one of `and` or the first true one of `or`. -/
theorem Predicate.Bracketed.same_everywhere {op : Connective} {es : List Predicate}
    {a b : Predicate} (ha : Bracketed op es a) (hb : Bracketed op es b) (style : BooleanStyle)
    (c : Context) :
    (c.fill a).clause style = (c.fill b).clause style ∧
      ∀ record, (c.fill a).holds style record = (c.fill b).holds style record ∧
        a.holds style record = scan op.dominant (fun e => e.holds style record) es := by
  have hscan (scope : Json) : truth style a scope = truth style b scope := by
    rw [truth_of_bracketed ha, truth_of_bracketed hb]
  rcases ha.eq_or_logical hb with rfl | ⟨⟨x, y, rfl⟩, z, w, rfl⟩
  · exact ⟨rfl, fun record => ⟨rfl, truth_of_bracketed ha⟩⟩
  · have halike : Alike (.logical op x y) (.logical op z w) := ⟨rfl, rfl, rfl⟩
    have htext (parent : Option Connective) :
        Clause.chars style parent (.logical op x y) =
          Clause.chars style parent (.logical op z w) := by
      rw [Clause.chars_of_bracketed ha, Clause.chars_of_bracketed hb]
    exact ⟨congrArg (Except.map String.ofList) (Clause.chars_fill halike rfl htext c none),
      fun record => ⟨truth_fill halike hscan c record, truth_of_bracketed ha⟩⟩

/-- The second operand is a chain of the other connective and the last one has no truth value; on
the record the first one decides. -/
theorem Predicate.Bracketed.same_everywhere_mixed :
    let active : Predicate := .field ⟨["Active"]⟩
    let known : Predicate := .logical .or (.compare .gt (.field ⟨["Age"]⟩) (.literal (.integer 5)))
      (.isNull (.field ⟨["Site", "Id"]⟩))
    let text : Predicate := .literal (.string "x")
    let a : Predicate := .logical .and (.logical .and active known) text
    let b : Predicate := .logical .and active (.logical .and known text)
    let c : Context := .not (.logicalRight .or (.field ⟨["Open"]⟩) .hole)
    let record : Json := .object [("Active", .boolean false)]
    (Bracketed .and [active, known, text] a ∧ Bracketed .and [active, known, text] b) ∧
      (c.fill b).clause .native =
        .ok "not (Open or (Active and (Age gt 5 or Site/Id eq null) and 'x'))" ∧
      (c.fill b).holds .native record = .ok true ∧ b.holds .native record = .ok false := by
  intro active known text a b c record
  have ha : Bracketed .and [active, known, text] a := .pair (.pair (.one _) (.one _)) (.one _)
  have hb : Bracketed .and [active, known, text] b := .pair (.one _) (.pair (.one _) (.one _))
  have hclause := (hb.same_everywhere ha .native c).1
  have hfill := ((hb.same_everywhere ha .native c).2 record).1
  have hscan := ((hb.same_everywhere ha .native c).2 record).2
  exact ⟨⟨ha, hb⟩, hclause.trans (by rfl), hfill.trans (by rfl), hscan.trans (by rfl)⟩

end RecordQuery
