import RecordQuery.Proofs.Clause.Grammar

/-!
# Clauses have one reading

A reader that takes the tokens one by one, and never looks ahead, ends with the expression of
every derivation. Since it is a function of the tokens, they stand for one expression only.
-/
namespace RecordQuery.Clause

theorem isIdentifier_chars {w : List Char} (h : isIdentifier w) {c : Char} (hc : c ∈ w) :
    isLetter c ∨ c.isDigit := by
  match w, h with
  | d :: rest, h =>
    simp only [isIdentifier, Bool.and_eq_true, List.all_eq_true, Bool.or_eq_true] at h
    rcases List.mem_cons.mp hc with rfl | hc
    · exact .inl h.1
    · exact h.2 c hc

theorem not_isDigit_of_isLetter {c : Char} (h : isLetter c) : c.isDigit = false := by
  rw [Bool.eq_false_iff]
  intro hd
  obtain ⟨-, h9⟩ := Char.isDigit_iff_toNat.mp hd
  have hn : '9'.toNat = 57 ∧ 'A'.val.toNat = 65 ∧ 'a'.val.toNat = 97 := ⟨rfl, rfl, rfl⟩
  have hv : c.toNat = c.val.toNat := rfl
  simp only [isLetter, Char.isAlpha, Char.isUpper, Char.isLower, Bool.or_eq_true,
    Bool.and_eq_true, decide_eq_true_eq, ge_iff_le, UInt32.le_iff_toNat_le] at h
  rcases h with ((h | h) | rfl) | h
  · omega
  · omega
  · exact absurd hd (by decide)
  · omega

theorem isPath_head {w : List Char} (h : isPath w) : ∃ c rest, w = c :: rest ∧ isLetter c := by
  have hw : ['/'].intercalate (w.splitOn '/') = w := List.intercalate_splitOn '/'
  simp only [isPath, List.all_eq_true, Bool.and_eq_true] at h
  match hs : w.splitOn '/', hw, h with
  | [], hw, _ => exact absurd hs (by simp)
  | [] :: _, _, h => simp [isIdentifier] at h
  | (c :: name) :: names, hw, h =>
    have hc := (h (c :: name) (by simp)).1
    simp only [isIdentifier, Bool.and_eq_true] at hc
    cases names with
    | nil => exact ⟨c, name, by simpa [List.intercalate] using hw.symm, hc.1⟩
    | cons n ns =>
      exact ⟨c, name ++ '/' :: ['/'].intercalate (n :: ns),
        by simpa [List.intercalate] using hw.symm, hc.1⟩

theorem not_isPath_of_isBare {w : List Char} (h : isBare w) : isPath w = false := by
  by_contra hp
  obtain ⟨c, rest, rfl, hc⟩ := isPath_head (by simpa using hp)
  simp only [isBare, startsNumber, Bool.or_eq_true, Bool.and_eq_true, decide_eq_true_eq,
    List.any_eq_true] at h
  rcases h with ⟨word, hw, he⟩ | hd | ⟨rfl | rfl, -⟩
  · revert hp
    rw [← he]
    simp only [List.mem_cons, List.not_mem_nil, or_false] at hw
    rcases hw with rfl | rfl | rfl | rfl | rfl | rfl <;> decide
  · exact absurd hd (by simp [not_isDigit_of_isLetter hc])
  · exact absurd hc (by decide)
  · exact absurd hc (by decide)

/-- What waits for the operand that is read next. -/
inductive Pending where
  | negation
  | operand (op : Operator) (left : Expression)

/-- What a parenthesis was opened for. -/
inductive Opened where
  | group
  | first (name : List Char)
  | second (name : List Char) (first : Expression)
  | condition (path element : List Char)

/-- An open parenthesis, and what was pending in front of it. -/
structure Frame where
  opened : Opened
  pending : List Pending

inductive State where
  | expecting (pending : List Pending) (outer : List Frame)
  /-- Behind the parenthesis of a collection test. -/
  | collection (path : List Char) (pending : List Pending) (outer : List Frame)
  | holding (e : Expression) (pending : List Pending) (outer : List Frame)

/-- Puts `not` in front of an operand as often as it is pending. -/
def settle (e : Expression) (outer : List Frame) : List Pending → State
  | .negation :: ps => settle (.not e) outer ps
  | ps => .holding e ps outer

/-- Joins an expression to the pending operands, down to the given level. -/
def reduce (n : Nat) (e : Expression) : List Pending → List Pending × Expression
  | .operand op left :: ps =>
    if n ≤ op.level then reduce n (.binary op left e) ps else (.operand op left :: ps, e)
  | ps => (ps, e)

def Opened.close (e : Expression) : Opened → Option Expression
  | group => some e
  | first _ => none
  | second name a => some (.function name a e)
  | condition path element => some (.anyWhere path element e)

def State.step : State → Token → Option State
  | expecting ps outer, .word w =>
    if w = "not".toList then some (.expecting (.negation :: ps) outer)
    else if isPath w then some (settle (.member w) outer ps)
    else some (settle (.constant (.word w)) outer ps)
  | expecting ps outer, .quoted typeName s =>
    some (settle (.constant (.quoted typeName s)) outer ps)
  | expecting ps outer, .opening w =>
    if w = [] then some (.expecting [] (⟨.group, ps⟩ :: outer))
    else if isIdentifier w then some (.expecting [] (⟨.first w, ps⟩ :: outer))
    else some (.collection (w.take (w.length - "/any".toList.length)) ps outer)
  | collection w ps outer, .closing => some (settle (.any w) outer ps)
  | collection w ps outer, .word v => some (.expecting [] (⟨.condition w v.dropLast, ps⟩ :: outer))
  | holding e ps outer, .word w =>
    (Operator.ofWord? w).map fun op =>
      .expecting (.operand op (reduce op.level e ps).2 :: (reduce op.level e ps).1) outer
  | holding e ps (⟨.first name, qs⟩ :: outer), .comma =>
    some (.expecting [] (⟨.second name (reduce 0 e ps).2, qs⟩ :: outer))
  | holding e ps (⟨opened, qs⟩ :: outer), .closing =>
    (opened.close (reduce 0 e ps).2).map fun e => settle e outer qs
  | _, _ => none

def State.run (s : State) (ts : List Token) : Option State := ts.foldlM State.step s

/-- Whether an operand that is read next at the level stays apart from what is pending. -/
def Waits (n : Nat) : List Pending → Prop
  | [] => True
  | .negation :: _ => False
  | .operand op _ :: _ => op.level < n

theorem Waits.mono {m n : Nat} (hmn : m ≤ n) {ps : List Pending} (h : Waits m ps) :
    Waits n ps := by
  match ps, h with
  | [], _ => trivial
  | .operand _ _ :: _, h => exact Nat.lt_of_lt_of_le h hmn

theorem Waits.reduce {n : Nat} {ps : List Pending} (h : Waits n ps) (e : Expression) :
    reduce n e ps = (ps, e) := by
  match ps, h with
  | [], _ => rfl
  | .operand _ _ :: _, h => simp only [Clause.reduce, if_neg (Nat.not_le.mpr h)]

theorem Waits.settle {n : Nat} {ps : List Pending} (h : Waits n ps) (e : Expression)
    (outer : List Frame) : settle e outer ps = .holding e ps outer := by
  match ps, h with
  | [], _ => rfl
  | .operand _ _ :: _, _ => rfl

/-- Joining down to a level may stop at a tighter one on the way. -/
theorem reduce_of_le {m n : Nat} (hmn : m ≤ n) (e : Expression) (ps : List Pending) :
    reduce m e ps = reduce m (reduce n e ps).2 (reduce n e ps).1 := by
  induction ps generalizing e with
  | nil => rfl
  | cons p ps ih =>
    cases p with
    | negation => rfl
    | operand op left =>
      by_cases hn : n ≤ op.level
      · simp only [reduce, hn, hmn.trans hn, if_true]
        exact ih _
      · simp only [reduce, hn, if_false]

namespace State

theorem run_cons (s : State) (t : Token) (ts : List Token) :
    s.run (t :: ts) = (s.step t).bind fun s => s.run ts := rfl

end State

/-- Wherever an operand is expected, the tokens are read as the expression at once. -/
def Settles (ts : List Token) (e : Expression) : Prop :=
  ∀ ps outer rest, (State.expecting ps outer).run (ts ++ rest) = (settle e outer ps).run rest

/-- Where nothing pending is as tight as the level, the tokens are read as parts that join to the
expression at that level. -/
def Joins (n : Nat) (ts : List Token) (e : Expression) : Prop :=
  ∀ ps outer rest, Waits n ps → ∃ qs d, reduce n d qs = (ps, e) ∧
    (State.expecting ps outer).run (ts ++ rest) = (State.holding d qs outer).run rest

theorem Settles.joins {ts : List Token} {e : Expression} (h : Settles ts e) (n : Nat) :
    Joins n ts e :=
  fun ps outer rest hps => ⟨ps, e, hps.reduce e, by rw [h, hps.settle]⟩

theorem Joins.loosen {n : Nat} {ts : List Token} {e : Expression} (h : Joins (n + 1) ts e) :
    Joins n ts e := by
  intro ps outer rest hps
  obtain ⟨qs, d, hd, hrun⟩ := h ps outer rest (hps.mono n.le_succ)
  refine ⟨qs, d, ?_, hrun⟩
  rw [reduce_of_le n.le_succ, hd]
  exact hps.reduce e

theorem Joins.binary {op : Operator} {ts us : List Token} {a b : Expression}
    (ha : Joins op.level ts a) (hb : Joins (op.level + 1) us b) :
    Joins op.level (ts ++ .word op.token :: us) (.binary op a b) := by
  intro ps outer rest hps
  obtain ⟨qs, d, hd, hrun⟩ := ha ps outer (.word op.token :: (us ++ rest)) hps
  obtain ⟨qs', d', hd', hrun'⟩ := hb (.operand op a :: ps) outer rest (Nat.lt_succ_self _)
  refine ⟨qs', d', ?_, ?_⟩
  · rw [reduce_of_le (Nat.le_succ _), hd']
    simpa [reduce] using hps.reduce _
  · rw [List.append_assoc, List.cons_append, hrun, State.run_cons]
    simpa [State.step, hd] using hrun'

theorem Joins.inside {ts : List Token} {e : Expression} (h : Joins 0 ts e) (outer : List Frame)
    (rest : List Token) : ∃ qs d, (reduce 0 d qs).2 = e ∧
      (State.expecting [] outer).run (ts ++ rest) = (State.holding d qs outer).run rest := by
  obtain ⟨qs, d, hd, hrun⟩ := h [] outer rest trivial
  exact ⟨qs, d, by rw [hd], hrun⟩

theorem isPath_ne_not {w : List Char} (h : isPath w) : w ≠ "not".toList := by
  rintro rfl
  exact absurd h (by decide)

theorem isBare_ne_not {w : List Char} (h : isBare w) : w ≠ "not".toList := by
  rintro rfl
  exact absurd h (by decide)

theorem not_isIdentifier_collection (w : List Char) :
    isIdentifier (w ++ "/any".toList) = false := by
  rw [Bool.eq_false_iff]
  intro h
  have hc := isIdentifier_chars h (c := '/') (by simp)
  exact absurd hc (by decide)

theorem settles_member {w : List Char} (h : isPath w) : Settles [.word w] (.member w) := by
  intro ps outer rest
  simp only [List.cons_append, List.nil_append, State.run_cons, State.step, isPath_ne_not h, h,
    if_true, if_false, Option.bind_some]

theorem settles_bare {w : List Char} (h : isBare w) : Settles [.word w] (.constant (.word w)) := by
  intro ps outer rest
  simp only [List.cons_append, List.nil_append, State.run_cons, State.step, isBare_ne_not h,
    not_isPath_of_isBare h, if_false, Option.bind_some, Bool.false_eq_true]

theorem settles_quoted (typeName s : List Char) :
    Settles [.quoted typeName s] (.constant (.quoted typeName s)) := by
  intro ps outer rest
  simp only [List.cons_append, List.nil_append, State.run_cons, State.step, Option.bind_some]

theorem Joins.group {ts : List Token} {e : Expression} (h : Joins 0 ts e) :
    Settles (.opening [] :: ts ++ [.closing]) e := by
  intro ps outer rest
  obtain ⟨qs, d, rfl, hrun⟩ := h.inside (⟨.group, ps⟩ :: outer) (.closing :: rest)
  simp only [List.cons_append, List.append_assoc, List.nil_append, State.run_cons, State.step,
    if_true, Option.bind_some, hrun, Opened.close, Option.map_some]

theorem Joins.function {name : List Char} (hname : isIdentifier name) {ts us : List Token}
    {a b : Expression} (ha : Joins 0 ts a) (hb : Joins 0 us b) :
    Settles (.opening name :: ts ++ .comma :: us ++ [.closing]) (.function name a b) := by
  intro ps outer rest
  have hne : name ≠ [] := by
    rintro rfl
    exact absurd hname (by decide)
  obtain ⟨qs, d, rfl, hrun⟩ := ha.inside (⟨.first name, ps⟩ :: outer)
    (.comma :: (us ++ .closing :: rest))
  obtain ⟨qs', d', rfl, hrun'⟩ := hb.inside (⟨.second name (reduce 0 d qs).2, ps⟩ :: outer)
    (.closing :: rest)
  simp only [List.cons_append, List.append_assoc, List.nil_append, State.run_cons, State.step,
    hne, hname, if_true, if_false, Option.bind_some, hrun, hrun', Opened.close, Option.map_some]

/-- Behind the parenthesis of a collection test the path is known. -/
theorem run_collection (w : List Char) (ps : List Pending) (outer : List Frame)
    (rest : List Token) :
    (State.expecting ps outer).run (.opening (w ++ "/any".toList) :: rest) =
      (State.collection w ps outer).run rest := by
  have hne : w ++ "/any".toList ≠ [] := by simp
  have hw : (w ++ "/any".toList).take ((w ++ "/any".toList).length - "/any".toList.length) = w := by
    rw [List.length_append, Nat.add_sub_cancel, List.take_left]
  simp only [State.run_cons, State.step, hne, if_false, not_isIdentifier_collection,
    Bool.false_eq_true, Option.bind_some, hw]

theorem settles_any (w : List Char) :
    Settles [.opening (w ++ "/any".toList), .closing] (.any w) := by
  intro ps outer rest
  rw [List.cons_append, run_collection]
  rfl

theorem Joins.anyWhere (w element : List Char) {ts : List Token} {e : Expression}
    (h : Joins 0 ts e) :
    Settles (.opening (w ++ "/any".toList) :: .word (element ++ [':']) :: ts ++ [.closing])
      (.anyWhere w element e) := by
  intro ps outer rest
  obtain ⟨qs, d, rfl, hrun⟩ := h.inside (⟨.condition w element, ps⟩ :: outer) (.closing :: rest)
  rw [List.append_assoc, List.cons_append, List.cons_append, run_collection]
  simp only [List.cons_append, List.nil_append, State.run_cons, State.step, List.dropLast_concat,
    Option.bind_some, hrun, Opened.close, Option.map_some]

theorem Settles.not {ts : List Token} {e : Expression} (h : Settles ts e) :
    Settles (.word "not".toList :: ts) (.not e) := by
  intro ps outer rest
  simp only [List.cons_append, State.run_cons, State.step, if_true, Option.bind_some]
  exact h (.negation :: ps) outer rest

/-- Every derivation is followed by the reader. -/
theorem Derives.followed {n : Nat} {ts : List Token} {e : Expression} (h : Derives n ts e) :
    Joins n ts e ∧ (negationLevel ≤ n → Settles ts e) := by
  have both {n : Nat} {ts : List Token} {e : Expression} (hs : Settles ts e) :
      Joins n ts e ∧ (negationLevel ≤ n → Settles ts e) := ⟨hs.joins n, fun _ => hs⟩
  induction h with
  | member path => exact both (settles_member path)
  | bare bare => exact both (settles_bare bare)
  | string s => exact both (settles_quoted [] s)
  | typed _ label => exact both (settles_quoted _ label)
  | group _ ih => exact both ih.1.group
  | function identifier _ _ ih ih' => exact both (ih.1.function identifier ih'.1)
  | any _ => exact both (settles_any _)
  | anyWhere _ _ _ ih => exact both (ih.1.anyWhere _ _)
  | not _ ih => exact both (ih.2 le_rfl).not
  | binary op _ _ ih ih' =>
    refine ⟨ih.1.binary ih'.1, fun h => ?_⟩
    exact absurd h (Nat.not_le.mpr (Nat.lt_succ_of_le op.level_le))
  | tighter _ ih => exact ⟨ih.1.loosen, fun h => ih.2 (h.trans (Nat.le_succ _))⟩

/-- No list of tokens stands for two expressions. -/
theorem Derives.unique {ts : List Token} {a b : Expression} (ha : Derives 0 ts a)
    (hb : Derives 0 ts b) : a = b := by
  obtain ⟨qs, d, rfl, hrun⟩ := ha.followed.1.inside [] []
  obtain ⟨qs', d', rfl, hrun'⟩ := hb.followed.1.inside [] []
  obtain ⟨rfl, rfl, -⟩ := State.holding.inj (Option.some.inj (hrun.symm.trans hrun'))
  rfl

theorem IsReading.unique {text : List Char} {a b : Expression} (ha : IsReading text a)
    (hb : IsReading text b) : a = b := by
  obtain ⟨ts, hts, ha⟩ := ha
  obtain ⟨us, hus, hb⟩ := hb
  obtain rfl := Option.some.inj (hts.symm.trans hus)
  exact ha.unique hb

end RecordQuery.Clause
