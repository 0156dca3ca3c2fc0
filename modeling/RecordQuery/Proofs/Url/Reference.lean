import RecordQuery.Proofs.Clause.Unambiguous
import RecordQuery.Proofs.Url.Encoding
import RecordQuery.Url.Parser

/-!
# References of one segment

A reference that is a single segment takes the place of the last segment of its base. Tabs and
line breaks are dropped from it, and nothing else of it is lost. A name is such a reference, and so
is a name with something in parentheses behind it.
-/
namespace RecordQuery.Url

def IsWeb (u : Url) : Prop := u.scheme = "http".toList ∨ u.scheme = "https".toList

/-- A text without its tabs and line breaks. -/
def unbroken (text : List Char) : List Char := text.filter (!isTabOrNewline ·)

theorem unbroken_append (s t : List Char) : unbroken (s ++ t) = unbroken s ++ unbroken t :=
  List.filter_append ..

def IsUnbroken (text : List Char) : Prop := ∀ c ∈ text, isTabOrNewline c = false

instance : DecidablePred IsUnbroken := fun text =>
  decidable_of_iff (text.all (!isTabOrNewline ·)) (by simp [IsUnbroken])

theorem unbroken_eq_self_iff {text : List Char} : unbroken text = text ↔ IsUnbroken text := by
  simp [unbroken, IsUnbroken, List.filter_eq_self]

/-- A text some signs of which were escaped goes into a URL as if its tabs and line breaks had not
been there and all that has to be escaped had been escaped at once. -/
theorem encode_unbroken_encode {signs : String} (hs : signs.toList.all (!isTabOrNewline ·))
    {set : Char → Bool} (hset : escapeChars.toList.all (!set ·)) (text : List Char) :
    encode set (unbroken (encode (oneOf signs) text)) =
      encode (fun c => oneOf signs c || set c) (unbroken text) := by
  have hkept : unbroken (encode (oneOf signs) text) = encode (oneOf signs) (unbroken text) :=
    filter_encode (fun _ => of_oneOf (by decide)) (fun _ => of_oneOf hs) text
  rw [hkept, encode_encode]
  intro c hc
  simpa using of_oneOf hset hc

/-- A reference that is read as one segment: it names no scheme, and no character of it divides a
path or ends it. -/
structure IsSegment (text : List Char) : Prop where
  starts : ∃ c rest, text = c :: rest ∧ Clause.isLetter c
  ends : ∃ front c, text = front ++ [c] ∧ isControlOrSpace c = false
  undivided : ∀ c ∈ text, oneOf "/\\#?" c = false
  schemeless : splitScheme? (unbroken text) = none

section Letters

variable {c : Char}

theorem lt_toNat_of_isLetter (h : Clause.isLetter c) : 64 < c.toNat := by
  simp only [Clause.isLetter, Char.isAlpha, Char.isUpper, Char.isLower, Bool.or_eq_true,
    Bool.and_eq_true, decide_eq_true_eq, ge_iff_le, UInt32.le_iff_toNat_le] at h
  rcases h with ((⟨h, -⟩ | ⟨h, -⟩) | rfl) | h
  · exact Nat.lt_of_lt_of_le (by decide) h
  · exact Nat.lt_of_lt_of_le (by decide) h
  · decide
  · omega

theorem not_isControlOrSpace_of_isLetter (h : Clause.isLetter c) : isControlOrSpace c = false := by
  have := lt_toNat_of_isLetter h
  simp only [isControlOrSpace, decide_eq_false_iff_not]
  omega

theorem isTabOrNewline_eq_false (h : isControlOrSpace c = false) : isTabOrNewline c = false := by
  simp only [isTabOrNewline, Bool.or_eq_false_iff, decide_eq_false_iff_not]
  refine ⟨⟨?_, ?_⟩, ?_⟩ <;> rintro rfl <;> exact absurd h (by decide)

/-- Lower case makes no sign of a letter. -/
theorem toLower_ne {d : Char} (h : c ≠ d) (hd : d.toNat < 97) : c.toLower ≠ d := by
  unfold Char.toLower
  split
  · next hupper =>
    rintro rfl
    obtain ⟨hl, hu⟩ := hupper
    rw [ge_iff_le, UInt32.le_iff_toNat_le] at hl
    rw [UInt32.le_iff_toNat_le] at hu
    have hd : (c.val + ('a'.val - 'A'.val)).toNat < 97 := hd
    rw [UInt32.toNat_add] at hd
    have hA : 'A'.val.toNat = 65 := rfl
    have hZ : 'Z'.val.toNat = 90 := rfl
    have hstep : ('a'.val - 'A'.val).toNat = 32 := rfl
    omega
  · exact h

theorem toLower_ne_of_isLetter (h : Clause.isLetter c) : c.toLower ≠ '.' ∧ c.toLower ≠ '%' := by
  constructor
  · refine toLower_ne ?_ (by decide)
    rintro rfl
    exact absurd h (by decide)
  · refine toLower_ne ?_ (by decide)
    rintro rfl
    exact absurd h (by decide)

end Letters

section Segment

variable {text : List Char}

theorem IsSegment.unbroken_eq_cons (h : IsSegment text) :
    ∃ c rest, unbroken text = c :: rest ∧ Clause.isLetter c := by
  obtain ⟨c, rest, rfl, hc⟩ := h.starts
  refine ⟨c, unbroken rest, ?_, hc⟩
  simp [unbroken, isTabOrNewline_eq_false (not_isControlOrSpace_of_isLetter hc)]

theorem IsSegment.clean_eq (h : IsSegment text) : clean text = unbroken text := by
  obtain ⟨c, rest, hs, hc⟩ := h.starts
  obtain ⟨front, d, he, hd⟩ := h.ends
  have hleft : text.dropWhile isControlOrSpace = text := by
    rw [hs, List.dropWhile_cons_of_neg (by simp [not_isControlOrSpace_of_isLetter hc])]
  have hright : text.reverse.dropWhile isControlOrSpace = text.reverse := by
    rw [he, List.reverse_append, List.reverse_singleton, List.singleton_append,
      List.dropWhile_cons_of_neg (by simp [hd])]
  simp only [clean, trim, hleft, hright, List.reverse_reverse, unbroken]

theorem IsSegment.not_mem (h : IsSegment text) {c : Char} (hc : oneOf "/\\#?" c) :
    c ∉ unbroken text := by
  intro hmem
  have := h.undivided c (List.mem_of_mem_filter hmem)
  simp [hc] at this

theorem cut_of_not_mem {c : Char} (h : c ∉ text) : cut c text = (text, none) := by
  have hdrop : text.dropWhile (· ≠ c) = [] := by
    rw [List.dropWhile_eq_nil_iff]
    intro d hd
    simpa using ne_of_mem_of_not_mem hd h
  simp only [cut, hdrop]

theorem cut_append {c : Char} (h : c ∉ text) (rest : List Char) :
    cut c (text ++ c :: rest) = (text, some rest) := by
  have hinside : ∀ d ∈ text, decide (d ≠ c) = true := by
    intro d hd
    simpa using ne_of_mem_of_not_mem hd h
  have hmark : decide (c ≠ c) = false := by simp
  simp only [cut, Text.takeWhile_field hinside hmark rest, Text.dropWhile_field hinside hmark rest]

theorem Remainder.of_undivided (hf : '#' ∉ text) (hq : '?' ∉ text) :
    Remainder.of text = ⟨text, none, none⟩ := by
  simp only [Remainder.of, cut_of_not_mem hf, cut_of_not_mem hq]

theorem splitPath_of_not_mem (hs : '/' ∉ text) (hb : '\\' ∉ text) (special : Bool) :
    splitPath special text = [text] := by
  have hmap : (text.map fun c => if isSlash special c then '/' else c) = text := by
    have hfixed : ∀ c ∈ text, (if isSlash special c then '/' else c) = c := by
      intro c hc
      have hne : isSlash special c = false := by
        simp [isSlash, ne_of_mem_of_not_mem hc hs, ne_of_mem_of_not_mem hc hb]
      simp [hne]
    rw [List.map_congr_left hfixed, List.map_id']
  rw [splitPath, hmap, List.splitOn_eq_singleton hs]

/-- A segment that begins with a letter does not stand for a folder. -/
theorem not_dots {c : Char} (hc : Clause.isLetter c) (rest : List Char) :
    isSingleDot (c :: rest) = false ∧ isDoubleDot (c :: rest) = false := by
  obtain ⟨hdot, hpercent⟩ := toLower_ne_of_isLetter hc
  simp [isSingleDot, isDoubleDot, lowerEscapes, hdot.symm, hpercent.symm]

theorem resolveSegments_singleton {c : Char} (hc : Clause.isLetter c) (rest : List Char)
    (before : List (List Char)) :
    resolveSegments before [c :: rest] = before ++ [encode pathSet (c :: rest)] := by
  obtain ⟨hsingle, hdouble⟩ := not_dots hc rest
  simp [resolveSegments, hsingle, hdouble]

theorem IsWeb.isFile_eq_false {u : Url} (h : u.IsWeb) : isFile u.scheme = false := by
  rcases h with h | h <;> rw [h] <;> decide

theorem IsWeb.isSpecial {u : Url} (h : u.IsWeb) : isSpecial u.scheme = true := by
  rcases h with h | h <;> rw [h] <;> decide

theorem read?_segment {base : Url} (hb : base.IsWeb) {pieces : List (List Char)}
    (hl : base.location = .segments pieces) (h : IsSegment text) :
    read? (some base) text = some ⟨base.scheme, base.authority,
      .segments (pieces.dropLast ++ [encode pathSet (unbroken text)]), none, none⟩ := by
  obtain ⟨c, rest, hunbroken, hc⟩ := h.unbroken_eq_cons
  have hremainder : Remainder.of (unbroken text) = ⟨unbroken text, none, none⟩ :=
    Remainder.of_undivided (h.not_mem (by decide)) (h.not_mem (by decide))
  have hslash : isSlash true c = false := by
    have hmem : c ∈ unbroken text := by simp [hunbroken]
    have hs : c ≠ '/' := ne_of_mem_of_not_mem hmem (h.not_mem (by decide))
    have hb : c ≠ '\\' := ne_of_mem_of_not_mem hmem (h.not_mem (by decide))
    simp [isSlash, hs, hb]
  have hpath : segmentsAfter (isSpecial base.scheme) pieces.dropLast (unbroken text) =
      .segments (pieces.dropLast ++ [encode pathSet (unbroken text)]) := by
    rw [segmentsAfter, splitPath_of_not_mem (h.not_mem (by decide)) (h.not_mem (by decide)),
      hunbroken, resolveSegments_singleton hc]
  have hrelative : relative? base ⟨unbroken text, none, none⟩ = some ⟨base.scheme, base.authority,
      .segments (pieces.dropLast ++ [encode pathSet (unbroken text)]), none, none⟩ := by
    rw [hunbroken] at hpath ⊢
    simp only [relative?, hslash, Bool.false_eq_true, if_false, Location.parent, hl, hpath]
    rfl
  simp only [read?, h.clean_eq, h.schemeless, hremainder, Option.bind_eq_bind, Option.bind_some, hl]
  rw [if_neg (by simp [hb.isFile_eq_false]), hrelative]

end Segment

section Identifiers

variable {w inner : List Char} {c : Char}

theorem not_delimiter_of_isIdentifier {signs : String}
    (hs : signs.toList.all fun d => !Clause.isLetter d && !d.isDigit) (h : Clause.isIdentifier w)
    (hc : c ∈ w) : oneOf signs c = false := by
  by_contra hsign
  obtain ⟨hletter, hdigit⟩ : Clause.isLetter c = false ∧ c.isDigit = false := by
    simpa using of_oneOf hs (by simpa using hsign)
  rcases Clause.isIdentifier_chars h hc with hl | hd
  · simp [hletter] at hl
  · simp [hdigit] at hd

theorem not_isControlOrSpace_of_isIdentifier (h : Clause.isIdentifier w) (hc : c ∈ w) :
    isControlOrSpace c = false := by
  rcases Clause.isIdentifier_chars h hc with hl | hd
  · exact not_isControlOrSpace_of_isLetter hl
  · have hlow : 48 ≤ c.toNat := (Char.isDigit_iff_toNat.mp hd).1
    simp only [isControlOrSpace, decide_eq_false_iff_not]
    omega

theorem unbroken_of_isIdentifier (h : Clause.isIdentifier w) : unbroken w = w := by
  rw [unbroken_eq_self_iff]
  intro c hc
  exact isTabOrNewline_eq_false (not_isControlOrSpace_of_isIdentifier h hc)

theorem exists_cons_of_isIdentifier (h : Clause.isIdentifier w) :
    ∃ c rest, w = c :: rest ∧ Clause.isLetter c := by
  match w, h with
  | c :: rest, h =>
    simp only [Clause.isIdentifier, Bool.and_eq_true] at h
    exact ⟨c, rest, rfl, h.1⟩

theorem splitScheme?_eq_none {text : List Char}
    (h : (text.dropWhile isSchemeChar).head? ≠ some ':') : splitScheme? text = none := by
  unfold splitScheme?
  split
  · split
    · next hd => simp [hd] at h
    · rfl
  · rfl

/-- A name, alone or in front of a parenthesis, is not read as a scheme. -/
theorem splitScheme?_of_isIdentifier (h : Clause.isIdentifier w) {rest : List Char}
    (hr : rest = [] ∨ rest.head? = some '(') : splitScheme? (w ++ rest) = none := by
  refine splitScheme?_eq_none ?_
  rw [List.dropWhile_append]
  split
  · rcases hr with rfl | hr
    · simp
    · obtain ⟨rest, rfl⟩ := List.head?_eq_some_iff.mp hr
      rw [List.dropWhile_cons_of_neg (by decide)]
      simp
  · next hne =>
    obtain ⟨d, front, hd⟩ := List.exists_cons_of_ne_nil (mt List.isEmpty_iff.mpr hne)
    have hmem : d ∈ w := List.dropWhile_subset _ (by rw [hd]; exact List.mem_cons_self)
    have hcolon : oneOf ":" d = false := not_delimiter_of_isIdentifier (by decide) h hmem
    rw [hd, List.cons_append, List.head?_cons]
    rintro ⟨⟩
    exact absurd hcolon (by decide)

theorem isSegment_identifier (h : Clause.isIdentifier w) : IsSegment w where
  starts := exists_cons_of_isIdentifier h
  ends := by
    obtain ⟨c, rest, hw, -⟩ := exists_cons_of_isIdentifier h
    obtain ⟨front, d, hd⟩ := (List.eq_nil_or_concat w).resolve_left (by simp [hw])
    rw [List.concat_eq_append] at hd
    exact ⟨front, d, hd, not_isControlOrSpace_of_isIdentifier h (by simp [hd])⟩
  undivided c hc := not_delimiter_of_isIdentifier (by decide) h hc
  schemeless := by
    rw [unbroken_of_isIdentifier h]
    simpa using splitScheme?_of_isIdentifier h (.inl rfl)

/-- A name with something in parentheses behind it. -/
theorem isSegment_parenthesized (h : Clause.isIdentifier w)
    (hi : ∀ c ∈ inner, oneOf "/\\#?" c = false) : IsSegment (w ++ '(' :: (inner ++ [')'])) where
  starts := by
    obtain ⟨c, rest, rfl, hc⟩ := exists_cons_of_isIdentifier h
    exact ⟨c, _, List.cons_append, hc⟩
  ends := ⟨w ++ '(' :: inner, ')', by simp, by decide⟩
  undivided c hc := by
    have hmem : c ∈ w ∨ c = '(' ∨ c ∈ inner ∨ c = ')' := by simpa using hc
    rcases hmem with hc | rfl | hc | rfl
    · exact not_delimiter_of_isIdentifier (by decide) h hc
    · decide
    · exact hi c hc
    · decide
  schemeless := by
    have hparenthesis : unbroken ('(' :: (inner ++ [')'])) = '(' :: unbroken (inner ++ [')']) :=
      List.filter_cons_of_pos (by decide)
    rw [unbroken_append, unbroken_of_isIdentifier h, hparenthesis]
    exact splitScheme?_of_isIdentifier h (.inr rfl)

end Identifiers

end RecordQuery.Url
