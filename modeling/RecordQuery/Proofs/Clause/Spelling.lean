import RecordQuery.Clause.Printer
import RecordQuery.Predicate.Path
import RecordQuery.Proofs.Clause.Text
import RecordQuery.Proofs.Text.Digits

/-!
# Members and constants in a clause

The text of every constant is one token, and so is the text of every path of names.
-/
namespace RecordQuery

/-- Every segment is an identifier and no reserved word. -/
def Path.IsNamed (p : Path) : Prop :=
  ∀ s ∈ p.segments, Clause.isIdentifier s.toList ∧ Clause.isReserved s.toList = false

/-- A type name, if the constant has one, is made of identifiers between dots. -/
def Literal.IsDotted : Literal → Prop
  | .member typeName _ => Clause.isDotted typeName.toList
  | _ => True

def BooleanStyle.IsDotted : BooleanStyle → Prop
  | .native => True
  | .labels typeName _ _ => Clause.isDotted typeName.toList

instance : DecidablePred Path.IsNamed := fun p =>
  inferInstanceAs (Decidable (∀ s ∈ p.segments, _ ∧ _))

instance : DecidablePred Literal.IsDotted
  | .member typeName _ => inferInstanceAs (Decidable (Clause.isDotted typeName.toList))
  | .string _ | .integer _ | .real _ | .boolean _ | .instant _ | .null => .isTrue trivial

instance : DecidablePred BooleanStyle.IsDotted
  | .native => .isTrue trivial
  | .labels typeName _ _ => inferInstanceAs (Decidable (Clause.isDotted typeName.toList))

/-- The boolean as a constant: a word, or the member of an enumeration that has its label. -/
def BooleanStyle.token : BooleanStyle → Bool → Clause.Token
  | .native, b => .word (if b then "true" else "false").toList
  | .labels typeName trueLabel falseLabel, b =>
    .quoted typeName.toList (if b then trueLabel else falseLabel).toList

/-- The constant as a reader has it: a string or a label is what stands between its quotes. -/
def Literal.token (style : BooleanStyle) : Literal → Clause.Token
  | .string s => .quoted [] s.toList
  | .integer i => .word (toString i).toList
  | .real x => .word x.clauseText
  | .boolean b => style.token b
  | .instant t => .word t.clauseText
  | .null => .word "null".toList
  | .member typeName label => .quoted typeName.toList label.toList

namespace Clause

theorem IsWord.intercalate {separator : Char} (hs : isWordChar separator) {ws : List (List Char)}
    (h : ∀ w ∈ ws, IsWord w) : IsWord ([separator].intercalate ws) := by
  induction ws with
  | nil => exact isWord_nil
  | cons w ws ih =>
    cases ws with
    | nil => simpa [List.intercalate] using h w (by simp)
    | cons v vs =>
      have hw := h w (by simp)
      have := ih fun u hu => h u (List.mem_cons_of_mem _ hu)
      simp_all [List.intercalate]

theorem IsWord.of_splitOn (separator : Char) (hs : isWordChar separator) {w : List Char}
    (h : ∀ v ∈ w.splitOn separator, isIdentifier v) : IsWord w := by
  have hw : [separator].intercalate (w.splitOn separator) = w := List.intercalate_splitOn separator
  rw [← hw]
  exact IsWord.intercalate hs fun v hv => .of_isIdentifier (h v hv)

theorem IsWord.of_isDotted {w : List Char} (h : isDotted w) : IsWord w :=
  .of_splitOn '.' (by decide) (List.all_eq_true.mp h)

theorem slash_not_mem {p : Path} (h : p.IsNamed) : ∀ s ∈ p.segments, '/' ∉ s.toList := by
  intro s hs hc
  have := isIdentifier_chars (h s hs).1 hc
  exact absurd this (by decide)

theorem splitOn_chars {p : Path} (h : ∀ s ∈ p.segments, '/' ∉ s.toList)
    (named : p.isCurrent = false) : p.chars.splitOn '/' = p.segments.map String.toList := by
  refine List.splitOn_intercalate '/' ?_ ?_
  · simpa only [List.mem_map, forall_exists_index, and_imp, forall_apply_eq_imp_iff₂] using h
  · simpa [Path.isCurrent] using named

theorem chars_inj {p q : Path} (hp : p.IsNamed) (hq : q.IsNamed) (hpn : p.isCurrent = false)
    (hqn : q.isCurrent = false) (h : p.chars = q.chars) : p = q := by
  have hs := splitOn_chars (slash_not_mem hp) hpn
  rw [h, splitOn_chars (slash_not_mem hq) hqn] at hs
  have hs := List.map_injective_iff.mpr (fun _ _ => String.toList_inj.mp) hs
  cases p
  cases q
  exact congrArg Path.mk hs.symm

theorem isPath_chars {p : Path} (h : p.IsNamed) (named : p.isCurrent = false) :
    isPath p.chars := by
  simp only [isPath, splitOn_chars (slash_not_mem h) named, List.all_map, List.all_eq_true]
  intro s hs
  simp [h s hs]

theorem IsWord.of_isPath {w : List Char} (h : isPath w) : IsWord w := by
  refine .of_splitOn '/' (by decide) fun v hv => ?_
  have := List.all_eq_true.mp h v hv
  simp_all

theorem reads_path {p : Path} (h : p.IsNamed) (named : p.isCurrent = false) :
    Reads termLevel p.chars (.member p.chars) := by
  have hp := isPath_chars h named
  obtain ⟨c, rest, hw, -⟩ := isPath_head hp
  exact ⟨_, spells_word (.of_isPath hp) (by simp [hw]), .member hp⟩

/-- One word that begins with a digit. -/
def IsUnsigned (text : List Char) : Prop := text.head?.any Char.isDigit ∧ IsWord text

/-- One word that begins as a number or a date does. -/
def IsNumeric (text : List Char) : Prop := startsNumber text ∧ IsWord text

theorem isUnsigned_of_digits {ds : List Char} (hd : ∀ c ∈ ds, c.isDigit) (hne : ds ≠ []) :
    IsUnsigned ds := by
  obtain ⟨c, rest, rfl⟩ := List.exists_cons_of_ne_nil hne
  exact ⟨by simpa using hd c (by simp), fun c hc => isWordChar_of_isDigit (hd c hc)⟩

theorem IsUnsigned.append {a b : List Char} (ha : IsUnsigned a) (hb : IsWord b) :
    IsUnsigned (a ++ b) := by
  obtain ⟨hd, hw⟩ := ha
  refine ⟨?_, isWord_append.mpr ⟨hw, hb⟩⟩
  cases a <;> simp_all

theorem IsUnsigned.isNumeric {text : List Char} (h : IsUnsigned text) : IsNumeric text := by
  obtain ⟨hd, hw⟩ := h
  refine ⟨?_, hw⟩
  cases text <;> simp_all [startsNumber]

theorem IsUnsigned.signed {sign : Char} (hs : sign = '-' ∨ sign = '+') {text : List Char}
    (h : IsUnsigned text) : IsNumeric (sign :: text) := by
  obtain ⟨hd, hw⟩ := h
  refine ⟨?_, isWord_cons.mpr ⟨?_, hw⟩⟩
  · simp only [startsNumber, hd, Bool.and_true, Bool.or_eq_true, decide_eq_true_eq]
    exact .inr hs.symm
  · rcases hs with rfl | rfl <;> decide

theorem IsNumeric.append {a b : List Char} (ha : IsNumeric a) (hb : IsWord b) :
    IsNumeric (a ++ b) := by
  obtain ⟨hs, hw⟩ := ha
  refine ⟨?_, isWord_append.mpr ⟨hw, hb⟩⟩
  match a, hs with
  | [c], hs =>
    have hc : c.isDigit := by simpa [startsNumber] using hs
    simp [startsNumber, hc]
  | c :: d :: a, hs => simpa [startsNumber] using hs

theorem isUnsigned_ofNat (n : Nat) : IsUnsigned (Text.Digits.ofNat n) :=
  isUnsigned_of_digits (fun _ => Text.Digits.isDigit_of_mem_ofNat) (Text.Digits.ofNat_ne_nil n)

theorem isUnsigned_padded (width n : Nat) : IsUnsigned (Text.Digits.padded width n) :=
  isUnsigned_of_digits (fun _ => Text.Digits.isDigit_of_mem_padded)
    (Text.Digits.padded_ne_nil width n)

theorem isNumeric_ofInt (i : Int) : IsNumeric (Text.Digits.ofInt i) := by
  cases i with
  | ofNat n => exact (isUnsigned_ofNat n).isNumeric
  | negSucc n => exact (isUnsigned_ofNat (n + 1)).signed (.inl rfl)

theorem isWord_replicate_zero (n : Nat) : IsWord (List.replicate n '0') := by
  intro c hc
  rw [List.eq_of_mem_replicate hc]
  decide

theorem isUnsigned_positional (d : Decimal) : IsUnsigned d.positional := by
  have hd := isUnsigned_ofNat d.digits
  have hw : ∀ ds ⊆ Text.Digits.ofNat d.digits, IsWord ds := fun ds h c hc => hd.2 c (h hc)
  have hpoint : isWordChar '.' := by decide
  unfold Decimal.positional
  split
  · split
    · exact hd
    · exact hd.append (isWord_replicate_zero _)
  · dsimp only
    split
    · next hlt =>
      refine .append ⟨?_, hw _ (List.take_subset _ _)⟩
        (isWord_cons.mpr ⟨hpoint, hw _ (List.drop_subset _ _)⟩)
      have hpos := Nat.sub_pos_of_lt hlt
      generalize (Text.Digits.ofNat d.digits).length - (-d.exponent).toNat = k at hpos
      have := hd.1
      cases k <;> simp_all [List.head?_take]
    · refine ⟨rfl, isWord_cons.mpr ⟨by decide, isWord_cons.mpr ⟨hpoint, ?_⟩⟩⟩
      exact isWord_append.mpr ⟨isWord_replicate_zero _, hd.2⟩

theorem isNumeric_signed (x : Binary64) {text : List Char} (h : IsUnsigned text) :
    IsNumeric (x.signed text) := by
  unfold Binary64.signed
  split
  · exact h.signed (.inl rfl)
  · exact h.isNumeric

theorem isNumeric_positional (x : Binary64) : IsNumeric x.positional := by
  refine isNumeric_signed x ?_
  split
  · exact ⟨by decide, isWord_of_all (by decide)⟩
  · exact isUnsigned_positional _

theorem isNumeric_instant (t : Time.Instant) : IsNumeric t.clauseText := by
  have hd (w n : Nat) : IsWord (Text.Digits.padded w n) := (isUnsigned_padded w n).2
  have hyear : IsNumeric (Time.Instant.yearText t.date.year) := by
    unfold Time.Instant.yearText
    split
    · exact (isUnsigned_padded _ _).isNumeric
    · split
      · exact (isUnsigned_padded _ _).signed (.inl rfl)
      · exact (isUnsigned_padded _ _).signed (.inr rfl)
  have hmarks : isWordChar '-' ∧ isWordChar 'T' ∧ isWordChar ':' ∧ isWordChar '.' ∧
      isWordChar 'Z' := by decide
  have hseconds : IsNumeric t.secondsText := by
    simp only [Time.Instant.secondsText, List.append_assoc, List.cons_append]
    exact hyear.append (by simp [hd, hmarks])
  have htrim : ∀ ds, IsWord ds → IsWord (Time.Instant.trimZeros ds) := fun ds h c hc =>
    h c (by simpa using List.dropWhile_subset _ (List.mem_reverse.mp hc))
  unfold Time.Instant.clauseText
  split
  · exact hseconds.append (by simp [isWord_nil, hmarks])
  · rw [List.append_assoc]
    exact hseconds.append (by simp [isWord_nil, hmarks, htrim _ (hd _ _)])

/-- One word that is a constant by itself. -/
def IsBareWord (text : List Char) : Prop := isBare text ∧ IsWord text

theorem IsNumeric.isBareWord {text : List Char} (h : IsNumeric text) : IsBareWord text :=
  ⟨by simp [isBare, h.1], h.2⟩

theorem isBareWord_named {word : String}
    (h : word ∈ ["true", "false", "null", "NaN", "INF", "-INF"]) : IsBareWord word.toList := by
  constructor
  · simp only [isBare, Bool.or_eq_true, List.any_eq_true, decide_eq_true_eq]
    exact .inl ⟨word, h, rfl⟩
  · simp only [List.mem_cons, List.not_mem_nil, or_false] at h
    rcases h with rfl | rfl | rfl | rfl | rfl | rfl <;> exact isWord_of_all (by decide)

theorem isBareWord_native (b : Bool) : IsBareWord (BooleanStyle.native.text b) := by
  cases b <;> exact isBareWord_named (by simp)

theorem isBareWord_real (x : Binary64) : IsBareWord x.clauseText := by
  unfold Binary64.clauseText
  split
  · exact isBareWord_named (by simp)
  · split
    · split
      · exact isBareWord_named (by simp)
      · exact isBareWord_named (by simp)
    · split
      · exact ((isNumeric_positional x).append (isWord_of_all (by decide))).isBareWord
      · exact (isNumeric_positional x).isBareWord

theorem IsBareWord.reads {text : List Char} (h : IsBareWord text) :
    Reads termLevel text (.constant (.word text)) := by
  have hne : text ≠ [] := by
    rintro rfl
    exact absurd h.1 (by decide)
  exact ⟨_, spells_word h.2 hne, .bare h.1⟩

theorem reads_string (s : List Char) :
    Reads termLevel (Text.Quoted.quote s) (.constant (.quoted [] s)) :=
  ⟨_, spells_quoted isWord_nil s, .string s⟩

theorem reads_member {typeName : String} (h : isDotted typeName.toList) (label : String) :
    Reads termLevel (memberText typeName label)
      (.constant (.quoted typeName.toList label.toList)) :=
  ⟨_, spells_quoted (.of_isDotted h) label.toList, .typed h _⟩

theorem reads_constantWord {word : String}
    (h : word ∈ ["true", "false", "null", "NaN", "INF", "-INF"]) :
    Reads termLevel word.toList (.constant (.word word.toList)) :=
  (isBareWord_named h).reads

theorem reads_boolean {style : BooleanStyle} (hs : style.IsDotted) (b : Bool) :
    Reads termLevel (style.text b) (.constant (style.token b)) := by
  cases style with
  | native => cases b <;> exact (isBareWord_native _).reads
  | labels typeName trueLabel falseLabel => exact reads_member hs _

theorem reads_constant {style : BooleanStyle} (hs : style.IsDotted) {v : Literal}
    (hv : v.IsDotted) : Reads termLevel (v.text style) (.constant (v.token style)) := by
  cases v with
  | string s => exact reads_string s.toList
  | integer i =>
    rw [Literal.token, Text.Digits.toList_toString]
    exact (isNumeric_ofInt i).isBareWord.reads
  | real x => exact (isBareWord_real x).reads
  | boolean b => exact reads_boolean hs b
  | instant t => exact (isNumeric_instant t).isBareWord.reads
  | null => exact reads_constantWord (by simp)
  | member typeName label => exact reads_member hv label

end Clause

end RecordQuery
