import RecordQuery.Proofs.Clause.Spelling
import RecordQuery.Proofs.Url.Reference
import RecordQuery.Query.Basic

/-!
# Addresses of records

A record is addressed by the entity and the key, written out plainly: names and the texts of
constants between commas, in parentheses. An address belongs to one entity and one key only. The
path of a request for the record is its address with some signs escaped.
-/
namespace RecordQuery

namespace Key

/-- A name and the text of its constant. -/
abbrev Part := List Char × List Char

def Part.plain (p : Part) : List Char := p.1 ++ '=' :: p.2

/-- What stands between the parentheses. -/
def inner (parts : List Part) : List Char := [','].intercalate (parts.map Part.plain)

def address (entity : List Char) (parts : List Part) : List Char :=
  entity ++ '(' :: (inner parts ++ [')'])

def parts (style : BooleanStyle) (keys : List (String × Literal)) : List Part :=
  keys.map fun k => (k.1.toList, k.2.text style)

/-- A text whose end shows from what is in it: a word, or a quoted string behind a word. -/
inductive IsEnding : List Char → Prop
  | word {w : List Char} (word : Clause.IsWord w) : IsEnding w
  | quoted {w : List Char} (word : Clause.IsWord w) (content : List Char) :
      IsEnding (w ++ Text.Quoted.quote content)

/-- A part of a key as it should be: a name, and a text whose end can be told. -/
structure Part.IsNamed (p : Part) : Prop where
  name : Clause.isIdentifier p.1
  text : IsEnding p.2

theorem isEnding_constant {style : BooleanStyle} (hs : style.IsDotted) {v : Literal}
    (hv : v.IsDotted) : IsEnding (v.text style) := by
  cases v with
  | string s => exact .quoted Clause.isWord_nil s.toList
  | integer i => exact .word (Clause.isNumeric_ofInt i).2
  | real x => exact .word (Clause.isBareWord_real x).2
  | boolean b =>
    cases style with
    | native => exact .word (Clause.isBareWord_native b).2
    | labels typeName trueLabel falseLabel => exact .quoted (.of_isDotted hs) _
  | instant t => exact .word (Clause.isNumeric_instant t).2
  | null =>
    have hnull : Clause.IsBareWord "null".toList := Clause.isBareWord_named (by simp)
    exact .word hnull.2
  | member typeName label => exact .quoted (.of_isDotted hv) label.toList

/-- What stands behind a constant in a key. -/
def IsMark (c : Char) : Prop := c = ',' ∨ c = ')'

section Injectivity

variable {c d : Char} {rest rest' s t : List Char} {p q : Part} {ps qs : List Part}

theorem IsMark.not_isWordChar (h : IsMark c) : Clause.isWordChar c = false := by
  rcases h with rfl | rfl <;> decide

theorem IsMark.ne_quote (h : IsMark c) : c ≠ '\'' := by
  rcases h with rfl | rfl <;> decide

/-- Such a text is read off the front of a longer one, up to the mark behind it. -/
theorem IsEnding.append_inj (hs : IsEnding s) (ht : IsEnding t) (hc : IsMark c) (hd : IsMark d)
    (h : s ++ c :: rest = t ++ d :: rest') : s = t ∧ c :: rest = d :: rest' := by
  have hquote : Clause.isWordChar '\'' = false := by decide
  -- the words in front are the same, and what follows them is a mark twice or a quote twice
  cases hs with
  | word hw =>
    cases ht with
    | word hv => exact Text.field_inj hw hv hc.not_isWordChar hd.not_isWordChar h
    | quoted hv content =>
      rw [List.append_assoc] at h
      obtain ⟨-, he⟩ := Text.field_inj hw hv hc.not_isWordChar hquote h
      exact absurd (List.cons.inj he).1 hc.ne_quote
  | quoted hw content =>
    cases ht with
    | word hv =>
      rw [List.append_assoc] at h
      obtain ⟨-, he⟩ := Text.field_inj hw hv hquote hd.not_isWordChar h
      exact absurd (List.cons.inj he).1.symm hd.ne_quote
    | quoted hv content' =>
      rw [List.append_assoc, List.append_assoc] at h
      obtain ⟨rfl, he⟩ := Text.field_inj hw hv hquote hquote h
      have hbody : Text.Quoted.double content ++ '\'' :: c :: rest =
          Text.Quoted.double content' ++ '\'' :: d :: rest' := by
        simpa [Text.Quoted.quote] using (List.cons.inj he).2
      have hscan := congrArg Text.Quoted.scanBody? hbody
      rw [Text.Quoted.scanBody?_double content (by simpa using hc.ne_quote),
        Text.Quoted.scanBody?_double content' (by simpa using hd.ne_quote)] at hscan
      obtain ⟨rfl, hrest⟩ := Prod.mk.inj (Option.some.inj hscan)
      exact ⟨rfl, hrest⟩

theorem identifier_append_inj {v w : List Char} (hv : Clause.isIdentifier v)
    (hw : Clause.isIdentifier w) {mark : Char} (hm : Url.oneOf "(=" mark)
    (h : v ++ mark :: rest = w ++ mark :: rest') : v = w ∧ rest = rest' := by
  have hinside {u : List Char} (hu : Clause.isIdentifier u) : ∀ c ∈ u, !Url.oneOf "(=" c := by
    intro c hc
    have hnone : Url.oneOf "(=" c = false := Url.not_delimiter_of_isIdentifier (by decide) hu hc
    simp [hnone]
  obtain ⟨hname, hrest⟩ := Text.field_inj (hinside hv) (hinside hw) (by simp [hm]) (by simp [hm]) h
  exact ⟨hname, (List.cons.inj hrest).2⟩

theorem Part.plain_append_inj (hp : p.IsNamed) (hq : q.IsNamed) (hc : IsMark c) (hd : IsMark d)
    (h : p.plain ++ c :: rest = q.plain ++ d :: rest') : p = q ∧ c :: rest = d :: rest' := by
  simp only [Part.plain, List.append_assoc, List.cons_append] at h
  obtain ⟨hname, h⟩ := identifier_append_inj hp.name hq.name (by decide) h
  obtain ⟨htext, hrest⟩ := hp.text.append_inj hq.text hc hd h
  exact ⟨Prod.ext hname htext, hrest⟩

/-- What follows a part of a key, if these are the parts behind it. -/
def following : List Part → List Char
  | [] => [')']
  | p :: ps => ',' :: (p.plain ++ following ps)

theorem following_eq_cons (ps : List Part) : ∃ c rest, IsMark c ∧ following ps = c :: rest := by
  cases ps with
  | nil => exact ⟨')', [], .inr rfl, rfl⟩
  | cons p ps => exact ⟨',', _, .inl rfl, rfl⟩

theorem inner_cons (p : Part) (ps : List Part) :
    inner (p :: ps) ++ [')'] = p.plain ++ following ps := by
  induction ps generalizing p with
  | nil => simp [inner, following]
  | cons q ps ih =>
    have hinner : inner (p :: q :: ps) = p.plain ++ [','] ++ inner (q :: ps) :=
      List.intercalate_cons_cons
    rw [hinner, List.append_assoc, ih]
    simp [following]

theorem plain_following_inj (hp : p.IsNamed) (hq : q.IsNamed)
    (h : p.plain ++ following ps = q.plain ++ following qs) :
    p = q ∧ following ps = following qs := by
  obtain ⟨c, rest, hc, hps⟩ := following_eq_cons ps
  obtain ⟨d, rest', hd, hqs⟩ := following_eq_cons qs
  rw [hps, hqs] at h ⊢
  exact Part.plain_append_inj hp hq hc hd h

/-- The mark behind a part tells whether another one follows. -/
theorem following_inj (hp : ∀ p ∈ ps, p.IsNamed) (hq : ∀ q ∈ qs, q.IsNamed)
    (h : following ps = following qs) : ps = qs := by
  induction ps generalizing qs with
  | nil =>
    cases qs with
    | nil => rfl
    | cons q qs => simp [following] at h
  | cons p ps ih =>
    cases qs with
    | nil => simp [following] at h
    | cons q qs =>
      obtain ⟨rfl, hrest⟩ := plain_following_inj (hp p List.mem_cons_self)
        (hq q List.mem_cons_self) (List.cons.inj h).2
      rw [ih (fun x hx => hp x (List.mem_cons_of_mem _ hx))
        (fun x hx => hq x (List.mem_cons_of_mem _ hx)) hrest]

/-- An address shows the entity, the names and the texts of the constants. -/
theorem address_inj {v w : List Char} (hv : Clause.isIdentifier v) (hw : Clause.isIdentifier w)
    (hp : ∀ p ∈ ps, p.IsNamed) (hq : ∀ q ∈ qs, q.IsNamed) (hpn : ps ≠ []) (hqn : qs ≠ [])
    (h : address v ps = address w qs) : v = w ∧ ps = qs := by
  obtain ⟨hentity, hparts⟩ := identifier_append_inj hv hw (by decide) h
  obtain ⟨p, ps, rfl⟩ := List.exists_cons_of_ne_nil hpn
  obtain ⟨q, qs, rfl⟩ := List.exists_cons_of_ne_nil hqn
  -- the parts read like parts that follow another one, but for the comma in front
  rw [inner_cons, inner_cons] at hparts
  exact ⟨hentity, following_inj hp hq (congrArg (',' :: ·) hparts)⟩

end Injectivity

/-- The signs that would end a segment of a path, or stand for something else in it. -/
def signs : String := "%#?/\\"

theorem escape_eq (text : List Char) : escape text = Url.encode (Url.oneOf signs) text := by
  unfold escape Url.encode
  congr 1
  funext c
  unfold escapeChar signs Url.oneOf
  split_ifs <;> simp_all <;> decide

theorem encode_identifier {w : List Char} (h : Clause.isIdentifier w) :
    Url.encode (Url.oneOf signs) w = w :=
  Url.encode_eq_self fun _ hc => Url.not_delimiter_of_isIdentifier (by decide) h hc

variable {style : BooleanStyle} {keys : List (String × Literal)}

theorem entry_eq {key : String × Literal} (h : Clause.isIdentifier key.1.toList) :
    entry style key =
      Url.encode (Url.oneOf signs) (Part.plain (key.1.toList, key.2.text style)) := by
  have hplain : Part.plain (key.1.toList, key.2.text style) =
      key.1.toList ++ (['='] ++ key.2.text style) := rfl
  rw [hplain, Url.encode_append, Url.encode_append, encode_identifier h, entry, escape_eq]
  rfl

theorem segment_eq (h : ∀ k ∈ keys, Clause.isIdentifier k.1.toList) :
    segment style keys =
      '(' :: (Url.encode (Url.oneOf signs) (inner (parts style keys)) ++ [')']) := by
  have hentries : keys.map (entry style) =
      ((parts style keys).map Part.plain).map (Url.encode (Url.oneOf signs)) := by
    rw [parts, List.map_map, List.map_map]
    exact List.map_congr_left fun k hk => entry_eq (h k hk)
  rw [inner, Text.apply_intercalate (Url.encode_append _) (by decide), ← hentries]
  rfl

theorem isNamed_of_mem_parts (hs : style.IsDotted)
    (hn : ∀ k ∈ keys, Clause.isIdentifier k.1.toList) (hv : ∀ k ∈ keys, k.2.IsDotted) :
    ∀ p ∈ parts style keys, p.IsNamed := by
  intro p hp
  obtain ⟨k, hk, rfl⟩ := List.mem_map.mp hp
  exact ⟨hn k hk, isEnding_constant hs (hv k hk)⟩

end Key

/-- A query for a single record: the entity and the parts of the key have names, and so do the
types of constants. -/
structure Query.IsKeyed (q : Query) : Prop where
  entity : Clause.isIdentifier q.entity.toList
  keys : q.keys ≠ []
  names : ∀ k ∈ q.keys, Clause.isIdentifier k.1.toList
  constants : ∀ k ∈ q.keys, k.2.IsDotted
  style : q.style.IsDotted

namespace Query

variable {q q' : Query}

def keyParts (q : Query) : List Key.Part := Key.parts q.style q.keys

/-- Where the record of a query is, in plain text. -/
def address (q : Query) : List Char := Key.address q.entity.toList q.keyParts

/-- The address with its signs escaped. -/
def addressText (q : Query) : List Char := Url.encode (Url.oneOf Key.signs) q.address

theorem IsKeyed.addressText_eq (h : q.IsKeyed) :
    q.addressText = q.entity.toList ++
      '(' :: (Url.encode (Url.oneOf Key.signs) (Key.inner q.keyParts) ++ [')']) := by
  have haddress : q.address = q.entity.toList ++ (['('] ++ (Key.inner q.keyParts ++ [')'])) := rfl
  rw [addressText, haddress, Url.encode_append, Url.encode_append, Url.encode_append,
    Key.encode_identifier h.entity]
  rfl

theorem IsKeyed.keyPath_eq (h : q.IsKeyed) : q.keyPath = .ok (String.ofList q.addressText) := by
  rw [keyPath, if_neg (by simpa using h.keys), h.addressText_eq, Key.segment_eq h.names]
  simp [keyParts]

theorem IsKeyed.isSegment (h : q.IsKeyed) : Url.IsSegment q.addressText := by
  rw [h.addressText_eq]
  refine Url.isSegment_parenthesized h.entity fun c hc => ?_
  have hdelimiters : "/\\#?".toList.all fun d => Url.oneOf Key.signs d && !Url.isEscapeChar d := by
    decide
  by_contra hdelimiter
  obtain ⟨hsign, hplain⟩ : Url.oneOf Key.signs c ∧ Url.isEscapeChar c = false := by
    simpa using Url.of_oneOf hdelimiters (by simpa using hdelimiter)
  rcases Url.mem_encode hc with ⟨hset, -⟩ | hescape
  · simp [hset] at hsign
  · simp [hescape] at hplain

/-- No two keyed queries have one address, unless entity, names and texts of constants agree. -/
theorem IsKeyed.address_inj (h : q.IsKeyed) (h' : q'.IsKeyed) (he : q.address = q'.address) :
    q.entity = q'.entity ∧ q.keyParts = q'.keyParts := by
  obtain ⟨hentity, hparts⟩ := Key.address_inj h.entity h'.entity
    (Key.isNamed_of_mem_parts h.style h.names h.constants)
    (Key.isNamed_of_mem_parts h'.style h'.names h'.constants)
    (by simpa [Key.parts] using h.keys) (by simpa [Key.parts] using h'.keys) he
  exact ⟨String.toList_inj.mp hentity, hparts⟩

end Query

end RecordQuery
