import RecordQuery.Proofs.Query.Key
import RecordQuery.Proofs.Result

/-!
# Key segments read back

A reader of key segments: what stands between the parentheses is divided at the commas outside of
quotes, each field at its first equals sign, and escapes are undone. It finds the names and the
texts of the constants, whatever signs the strings and labels hold.
-/
namespace RecordQuery.Key

/-- The escapes of a key segment and what they stand for. -/
def escapes : List (List Char × Char) :=
  [("%25".toList, '%'), ("%23".toList, '#'), ("%3F".toList, '?'), ("%2F".toList, '/'),
    ("%5C".toList, '\\')]

/-- The characters that would end a segment of a path. -/
def delimiters : List Char := ['#', '?', '/', '\\']

/-- Percent signs that start no escape of a key segment stay. -/
def unescape : List Char → List Char
  | [] => []
  | '%' :: a :: b :: rest =>
    match escapes.lookup ['%', a, b] with
    | some c => c :: unescape rest
    | none => '%' :: unescape (a :: b :: rest)
  | c :: rest => c :: unescape rest

/-- The fields between commas, given whether the text begins inside of quotes. -/
def fields (quoted : Bool) : List Char → List (List Char)
  | [] => [[]]
  | c :: rest =>
    if c = ',' && !quoted then [] :: fields false rest
    else (fields (quoted != (c = '\'')) rest).modifyHead (c :: ·)

/-- The name and the constant on the two sides of the first equals sign. -/
def readPart? (field : List Char) : Option Part :=
  let (name, text) := Url.cut '=' field
  text.map fun text => (unescape name, unescape text)

def readInner? (text : List Char) : Option (List Part) := (fields false text).mapM readPart?

/-- The names and the texts of the constants in a key segment. -/
def readSegment? : List Char → Option (List Part)
  | '(' :: rest => if rest.getLast? = some ')' then readInner? rest.dropLast else none
  | _ => none

/-! ## Escapes -/

section Escapes

variable {c : Char}

theorem escapeChar_eq_or (c : Char) :
    (escapeChar c, c) ∈ escapes ∨ escapeChar c = [c] ∧ c ≠ '%' ∧ c ∉ delimiters := by
  unfold escapeChar
  split_ifs <;> simp_all [escapes, delimiters]

theorem unescape_cons (h : c ≠ '%') (rest : List Char) :
    unescape (c :: rest) = c :: unescape rest := by
  rw [unescape]
  rintro _ _ _ rfl
  exact absurd rfl h

theorem unescape_append {e : List Char} (h : (e, c) ∈ escapes) (rest : List Char) :
    unescape (e ++ rest) = c :: unescape rest := by
  simp only [escapes, List.mem_cons, List.not_mem_nil, or_false, Prod.mk.injEq] at h
  rcases h with ⟨rfl, rfl⟩ | ⟨rfl, rfl⟩ | ⟨rfl, rfl⟩ | ⟨rfl, rfl⟩ | ⟨rfl, rfl⟩ <;> rfl

theorem unescape_escape (text : List Char) : unescape (escape text) = text := by
  unfold escape
  induction text with
  | nil => rfl
  | cons c text ih =>
    rw [List.flatMap_cons]
    rcases escapeChar_eq_or c with hescape | ⟨hplain, hc, -⟩
    · rw [unescape_append hescape, ih]
    · rw [hplain, List.singleton_append, unescape_cons hc, ih]

/-- Every percent sign is the start of an escape. -/
def IsEscaped (text : List Char) : Prop :=
  ∀ rest, '%' :: rest <:+ text → ∃ e ∈ escapes, e.1 <+: '%' :: rest

theorem isEscaped_of_not_mem {text : List Char} (h : '%' ∉ text) : IsEscaped text :=
  fun _ hrest => absurd (hrest.subset List.mem_cons_self) h

theorem isEscaped_cons_iff {text : List Char} :
    IsEscaped (c :: text) ↔
      (c = '%' → ∃ e ∈ escapes, e.1 <+: c :: text) ∧ IsEscaped text := by
  constructor
  · intro h
    refine ⟨?_, fun rest hrest => h rest (hrest.trans (List.suffix_cons c text))⟩
    rintro rfl
    exact h text List.suffix_rfl
  · rintro ⟨hc, htext⟩ rest hrest
    rcases List.suffix_cons_iff.mp hrest with heq | hsuffix
    · rw [heq]
      exact hc (List.cons.inj heq).1.symm
    · exact htext rest hsuffix

theorem isEscaped_escape_append {rest : List Char} (h : IsEscaped rest) (text : List Char) :
    IsEscaped (escape text ++ rest) := by
  unfold escape
  induction text with
  | nil => exact h
  | cons c text ih =>
    rw [List.flatMap_cons, List.append_assoc]
    rcases escapeChar_eq_or c with hescape | ⟨hplain, hc, -⟩
    · have hhead : ∃ a b, a ≠ '%' ∧ b ≠ '%' ∧ escapeChar c = ['%', a, b] := by
        revert hescape
        generalize escapeChar c = e
        simp only [escapes, List.mem_cons, List.not_mem_nil, or_false, Prod.mk.injEq]
        rintro (⟨rfl, -⟩ | ⟨rfl, -⟩ | ⟨rfl, -⟩ | ⟨rfl, -⟩ | ⟨rfl, -⟩) <;>
          exact ⟨_, _, by decide, by decide, rfl⟩
      obtain ⟨a, b, ha, hb, he⟩ := hhead
      rw [he] at hescape ⊢
      have hprefix : ['%', a, b] <+: ['%', a, b] ++ (text.flatMap escapeChar ++ rest) :=
        List.prefix_append _ _
      refine isEscaped_cons_iff.mpr ⟨fun _ => ⟨_, hescape, hprefix⟩, ?_⟩
      refine isEscaped_cons_iff.mpr ⟨fun h => absurd h ha, ?_⟩
      exact isEscaped_cons_iff.mpr ⟨fun h => absurd h hb, ih⟩
    · rw [hplain]
      exact isEscaped_cons_iff.mpr ⟨fun h => absurd h hc, ih⟩

theorem not_delimiter_of_mem_escape {text : List Char} (h : c ∈ escape text) :
    c ∉ delimiters := by
  obtain ⟨d, -, hc⟩ := List.mem_flatMap.mp h
  rcases escapeChar_eq_or d with hescape | ⟨hplain, -, hd⟩
  · have hall : ∀ e ∈ escapes, ∀ c ∈ e.1, c ∉ delimiters := by
      simp [escapes, delimiters]
    exact hall _ hescape c hc
  · rw [hplain, List.mem_singleton] at hc
    rwa [hc]

end Escapes

/-! ## Fields -/

/-- Whether the text behind a character is inside of quotes; a comma outside of them divides. -/
def passes? (quoted : Bool) (c : Char) : Option Bool :=
  if c = ',' && !quoted then none else some (quoted != (c = '\''))

/-- No comma divides the text, and its quotes are closed. -/
def IsField (text : List Char) : Prop := text.foldlM passes? false = some false

section Fields

variable {quoted after : Bool} {text rest : List Char}

theorem fields_append (h : text.foldlM passes? quoted = some after) (rest : List Char) :
    fields quoted (text ++ rest) = (fields after rest).modifyHead (text ++ ·) := by
  induction text generalizing quoted with
  | nil =>
    obtain rfl : quoted = after := Option.some.inj h
    cases h : fields quoted rest <;> simp [h]
  | cons c text ih =>
    rw [List.foldlM_cons] at h
    obtain ⟨next, hnext, htext⟩ := Option.bind_eq_some_iff.mp h
    unfold passes? at hnext
    split at hnext
    · contradiction
    · next hc =>
      rw [List.cons_append, fields, if_neg hc, Option.some.inj hnext, ih htext,
        List.modifyHead_modifyHead]
      rfl

theorem IsField.fields_eq (h : IsField text) : fields false text = [text] := by
  have := fields_append h []
  simpa [fields] using this

theorem IsField.fields_cons (h : IsField text) (rest : List Char) :
    fields false (text ++ ',' :: rest) = text :: fields false rest := by
  rw [fields_append h, fields]
  simp

theorem fields_intercalate {texts : List (List Char)} (h : ∀ text ∈ texts, IsField text)
    (hne : texts ≠ []) : fields false ([','].intercalate texts) = texts := by
  induction texts with
  | nil => contradiction
  | cons text texts ih =>
    have htext := h text List.mem_cons_self
    cases texts with
    | nil => simpa using htext.fields_eq
    | cons next texts =>
      have hrest := ih (fun t ht => h t (List.mem_cons_of_mem _ ht)) (by simp)
      rw [List.intercalate_cons_cons, List.append_assoc, List.singleton_append,
        htext.fields_cons, hrest]

/-- Words have neither commas nor quotes. -/
theorem foldlM_passes?_word (h : Clause.IsWord text) :
    text.foldlM passes? false = some false := by
  induction text with
  | nil => rfl
  | cons c text ih =>
    obtain ⟨hc, htext⟩ := Clause.isWord_cons.mp h
    have hpasses : passes? false c = some false := by
      have hcomma : c ≠ ',' := by
        rintro rfl
        exact absurd hc (by decide)
      have hquote : c ≠ '\'' := by
        rintro rfl
        exact absurd hc (by decide)
      simp [passes?, hcomma, hquote]
    rw [List.foldlM_cons, hpasses]
    exact ih htext

/-- A quote that is written twice ends the string and begins it again. -/
theorem foldlM_passes?_double (content : List Char) :
    (Text.Quoted.double content).foldlM passes? true = some true := by
  induction content with
  | nil => rfl
  | cons c content ih =>
    by_cases hc : c = '\''
    · subst hc
      exact ih
    · have hpasses : passes? true c = some true := by simp [passes?, hc]
      rw [Text.Quoted.double_cons hc, List.foldlM_cons, hpasses]
      exact ih

theorem foldlM_passes?_quote (content : List Char) :
    (Text.Quoted.quote content).foldlM passes? false = some false := by
  have hopen : passes? false '\'' = some true := rfl
  rw [Text.Quoted.quote, List.foldlM_cons, hopen, Option.bind_eq_bind, Option.bind_some,
    List.foldlM_append, foldlM_passes?_double]
  rfl

theorem IsEnding.isField (h : IsEnding text) : IsField text := by
  cases h with
  | word hw => exact foldlM_passes?_word hw
  | quoted hw content =>
    rw [IsField, List.foldlM_append, foldlM_passes?_word hw]
    exact foldlM_passes?_quote content

/-- Escapes hold neither commas nor quotes, and neither of these is escaped. -/
theorem foldlM_passes?_escape (quoted : Bool) (text : List Char) :
    (escape text).foldlM passes? quoted = text.foldlM passes? quoted := by
  unfold escape
  induction text generalizing quoted with
  | nil => rfl
  | cons c text ih =>
    have hc : (escapeChar c).foldlM passes? quoted = passes? quoted c := by
      rcases escapeChar_eq_or c with hescape | ⟨hplain, -⟩
      · have hall : ∀ e ∈ escapes, ∀ quoted,
            e.1.foldlM passes? quoted = passes? quoted e.2 := by decide
        exact hall _ hescape quoted
      · rw [hplain]
        exact Option.bind_fun_some _
    rw [List.flatMap_cons, List.foldlM_append, hc, List.foldlM_cons]
    congr 1
    funext next
    exact ih next

end Fields

/-! ## Segments -/

/-- A key as it should be: there is something in it, and the parts have names, as have the types of
constants. -/
structure IsNamed (style : BooleanStyle) (keys : List (String × Literal)) : Prop where
  nonempty : keys ≠ []
  names : ∀ k ∈ keys, Clause.isIdentifier k.1.toList
  constants : ∀ k ∈ keys, k.2.IsDotted
  style : style.IsDotted

section Segments

variable {style style' : BooleanStyle} {key : String × Literal}
  {keys keys' : List (String × Literal)}

theorem unescape_identifier {name : List Char} (h : Clause.isIdentifier name) :
    unescape name = name := by
  have hescape : escape name = name := by rw [escape_eq, encode_identifier h]
  conv_lhs => rw [← hescape]
  exact unescape_escape name

theorem equals_not_mem {name : List Char} (h : Clause.isIdentifier name) : '=' ∉ name := by
  intro hmem
  rcases Clause.isIdentifier_chars h hmem with hletter | hdigit
  · exact absurd hletter (by decide)
  · exact absurd hdigit (by decide)

theorem readPart?_entry (h : Clause.isIdentifier key.1.toList) :
    readPart? (entry style key) = some (key.1.toList, key.2.text style) := by
  rw [entry, readPart?, Url.cut_append (equals_not_mem h)]
  simp [unescape_identifier h, unescape_escape]

theorem isField_entry (hs : style.IsDotted) (hn : Clause.isIdentifier key.1.toList)
    (hv : key.2.IsDotted) : IsField (entry style key) := by
  have hname := foldlM_passes?_word (.of_isIdentifier hn)
  have hequals : passes? false '=' = some false := rfl
  rw [IsField, entry, List.foldlM_append, hname, Option.bind_eq_bind, Option.bind_some,
    List.foldlM_cons, hequals, Option.bind_eq_bind, Option.bind_some, foldlM_passes?_escape]
  exact (isEnding_constant hs hv).isField

/-- What a segment has between its parentheses. -/
theorem segment_eq_inner (style : BooleanStyle) (keys : List (String × Literal)) :
    segment style keys = '(' :: ([','].intercalate (keys.map (entry style)) ++ [')']) := rfl

theorem IsNamed.readSegment?_segment (h : IsNamed style keys) :
    readSegment? (segment style keys) = some (parts style keys) := by
  have hfields : ∀ text ∈ keys.map (entry style), IsField text := by
    intro text ht
    obtain ⟨key, hkey, rfl⟩ := List.mem_map.mp ht
    exact isField_entry h.style (h.names key hkey) (h.constants key hkey)
  have hread : ∀ key ∈ keys,
      (readPart? ∘ entry style) key = some (key.1.toList, key.2.text style) :=
    fun key hkey => readPart?_entry (h.names key hkey)
  rw [segment_eq_inner, readSegment?, if_pos (by simp), List.dropLast_concat, readInner?,
    fields_intercalate hfields (by simpa using h.nonempty), List.mapM_map, mapM_eq_some_map hread]
  rfl

theorem IsNamed.not_delimiter (h : IsNamed style keys) {c : Char} (hc : c ∈ segment style keys) :
    c ∉ delimiters := by
  rw [segment_eq h.names, ← escape_eq] at hc
  rcases List.mem_cons.mp hc with rfl | hc
  · decide
  · rcases List.mem_append.mp hc with hc | hc
    · exact not_delimiter_of_mem_escape hc
    · rw [List.mem_singleton.mp hc]
      decide

theorem IsNamed.isEscaped_segment (h : IsNamed style keys) : IsEscaped (segment style keys) := by
  rw [segment_eq h.names, ← escape_eq]
  refine isEscaped_cons_iff.mpr ⟨fun hc => absurd hc (by decide), ?_⟩
  exact isEscaped_escape_append (isEscaped_of_not_mem (by decide)) _

/-- A key segment has no character that ends a segment of a path and no percent sign but those of
its escapes. The names and the texts of its constants are read back from it, so keys with one
segment have the same names and texts. -/
theorem segment_read_back (h : IsNamed style keys) :
    (∀ c ∈ segment style keys, c ∉ delimiters) ∧
      IsEscaped (segment style keys) ∧
      readSegment? (segment style keys) = some (parts style keys) ∧
      ∀ style' keys', IsNamed style' keys' → segment style' keys' = segment style keys →
        parts style' keys' = parts style keys := by
  refine ⟨fun c => h.not_delimiter, h.isEscaped_segment, h.readSegment?_segment, ?_⟩
  intro style' keys' h' hsegment
  have hread := h'.readSegment?_segment
  rw [hsegment, h.readSegment?_segment] at hread
  exact (Option.some.inj hread).symm

/-- A string with every sign in it, and a label. -/
theorem segment_read_back_signs :
    let keys : List (String × Literal) :=
      [("Id", .string "a,b='%2F')/#?\\"), ("Status", .member "Ns.Status" "On'Hold, 50%")]
    IsNamed .noYes keys ∧
      readSegment? (segment .noYes keys) =
        some [("Id".toList, "'a,b=''%2F'')/#?\\'".toList),
          ("Status".toList, "Ns.Status'On''Hold, 50%'".toList)] := by
  intro keys
  have h : IsNamed .noYes keys := ⟨by decide, by decide, by decide, by decide⟩
  have hparts : parts .noYes keys = [("Id".toList, "'a,b=''%2F'')/#?\\'".toList),
      ("Status".toList, "Ns.Status'On''Hold, 50%'".toList)] := by decide
  exact ⟨h, hparts ▸ (segment_read_back h).2.2.1⟩

end Segments

end RecordQuery.Key
