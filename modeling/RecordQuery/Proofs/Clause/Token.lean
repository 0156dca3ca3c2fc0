import Mathlib
import RecordQuery.Proofs.Text.Mark
import RecordQuery.Proofs.Text.Quoted

/-!
# Tokens of a clause

The words and marks that a clause is made of. A word is a longest run of characters other than
blanks, commas, parentheses and quotes. A parenthesis or a quoted string that follows a word
immediately belongs to it: `contains(` and `Status'Open'` are single tokens.
-/
namespace RecordQuery.Clause

inductive Token where
  | word (text : List Char)
  /-- A parenthesis that opens, with the word in front of it, if any. -/
  | opening (word : List Char)
  /-- A quoted string, with the type name in front of it, if any. -/
  | quoted (typeName content : List Char)
  | closing
  | comma
  deriving DecidableEq, Repr

def isWordChar (c : Char) : Bool := !(c = ' ' || c = '(' || c = ')' || c = ',' || c = '\'')

/-- The token of a word that no parenthesis or quote follows. -/
def standing (word : List Char) : List Token := if word.isEmpty then [] else [.word word]

/-- The tokens of a text; there are none if a string does not end. -/
def tokens? (text : List Char) : Option (List Token) :=
  let word := text.takeWhile isWordChar
  match _h : text.dropWhile isWordChar with
  | [] => some (standing word)
  | c :: rest =>
    if c = '(' then (tokens? rest).map (.opening word :: ·)
    else if c = '\'' then
      match _hs : Text.Quoted.scanBody? rest with
      | none => none
      | some (content, rest) => (tokens? rest).map (.quoted word content :: ·)
    else if c = ')' then (tokens? rest).map (standing word ++ .closing :: ·)
    else if c = ',' then (tokens? rest).map (standing word ++ .comma :: ·)
    else (tokens? rest).map (standing word ++ ·)
termination_by text.length
decreasing_by
  all_goals
    have hd := List.length_dropWhile_le isWordChar text
    simp only [_h, List.length_cons] at hd
    first
      | omega
      | have := Text.Quoted.scanBody?_length _hs
        omega

/-- What may follow a word without becoming part of its token. -/
def isBoundary : List Char → Bool
  | [] => true
  | c :: _ => c = ' ' || c = ')' || c = ','

/-- A text is read as these tokens, whatever comes after its end. -/
def Spells (text : List Char) (ts : List Token) : Prop :=
  ∀ rest, isBoundary rest → tokens? (text ++ rest) = (tokens? rest).map (ts ++ ·)

def IsWord (w : List Char) : Prop := ∀ c ∈ w, isWordChar c

theorem isWord_of_all {w : List Char} (h : w.all isWordChar) : IsWord w := List.all_eq_true.mp h

theorem isWord_nil : IsWord [] := by simp [IsWord]

@[simp] theorem isWord_append {v w : List Char} : IsWord (v ++ w) ↔ IsWord v ∧ IsWord w := by
  simp [IsWord, or_imp, forall_and]

@[simp] theorem isWord_cons {c : Char} {w : List Char} :
    IsWord (c :: w) ↔ isWordChar c = true ∧ IsWord w := by
  simp [IsWord]

@[simp] theorem tokens?_nil : tokens? [] = some [] := by
  rw [tokens?]
  simp [standing]

/-- What a word is taken for is decided by the character behind it. -/
theorem tokens?_word_cons {w : List Char} (hw : IsWord w) {c : Char} (hc : isWordChar c = false)
    (rest : List Char) :
    tokens? (w ++ c :: rest) =
      if c = '(' then (tokens? rest).map (.opening w :: ·)
      else if c = '\'' then
        (Text.Quoted.scanBody? rest).bind fun r => (tokens? r.2).map (.quoted w r.1 :: ·)
      else if c = ')' then (tokens? rest).map (standing w ++ .closing :: ·)
      else if c = ',' then (tokens? rest).map (standing w ++ .comma :: ·)
      else (tokens? rest).map (standing w ++ ·) := by
  rw [tokens?]
  simp only [Text.takeWhile_field hw hc rest]
  split
  · next h => simp [Text.dropWhile_field hw hc rest] at h
  · next d r h =>
    rw [Text.dropWhile_field hw hc rest] at h
    obtain ⟨rfl, rfl⟩ := List.cons.inj h
    cases Text.Quoted.scanBody? rest <;> simp

theorem tokens?_opening {w : List Char} (hw : IsWord w) (rest : List Char) :
    tokens? (w ++ '(' :: rest) = (tokens? rest).map (.opening w :: ·) := by
  simp [tokens?_word_cons hw (c := '(') (by decide)]

@[simp] theorem tokens?_group (rest : List Char) :
    tokens? ('(' :: rest) = (tokens? rest).map (.opening [] :: ·) :=
  tokens?_opening isWord_nil rest

@[simp] theorem tokens?_blank (rest : List Char) : tokens? (' ' :: rest) = tokens? rest := by
  simpa [standing] using tokens?_word_cons isWord_nil (c := ' ') (by decide) rest

@[simp] theorem tokens?_closing (rest : List Char) :
    tokens? (')' :: rest) = (tokens? rest).map (.closing :: ·) := by
  simpa [standing] using tokens?_word_cons isWord_nil (c := ')') (by decide) rest

@[simp] theorem tokens?_comma (rest : List Char) :
    tokens? (',' :: rest) = (tokens? rest).map (.comma :: ·) := by
  simpa [standing] using tokens?_word_cons isWord_nil (c := ',') (by decide) rest

theorem spells_standing {w : List Char} (hw : IsWord w) : Spells w (standing w) := by
  intro rest hrest
  match rest, hrest with
  | [], _ =>
    rw [tokens?, List.append_nil]
    simp only [List.takeWhile_eq_self_iff.mpr hw]
    split
    · simp
    · next h => simp [List.dropWhile_eq_nil_iff.mpr hw] at h
  | c :: rest, hc =>
    have hc : c = ' ' ∨ c = ')' ∨ c = ',' := by simpa [isBoundary, or_assoc] using hc
    have hd : isWordChar c = false := by rcases hc with rfl | rfl | rfl <;> decide
    rw [tokens?_word_cons hw hd]
    rcases hc with rfl | rfl | rfl <;> simp [Function.comp_def]

theorem spells_quoted {w : List Char} (hw : IsWord w) (s : List Char) :
    Spells (w ++ Text.Quoted.quote s) [.quoted w s] := by
  intro rest hrest
  have hq : rest.head? ≠ some '\'' := by
    cases rest <;> simp_all [isBoundary]
    rintro rfl
    simp at hrest
  simp only [Text.Quoted.quote, List.append_assoc, List.cons_append, List.nil_append]
  simp [tokens?_word_cons hw (c := '\'') (by decide), Text.Quoted.scanBody?_double s hq]

theorem spells_word {w : List Char} (hw : IsWord w) (hne : w ≠ []) : Spells w [.word w] := by
  have h := spells_standing hw
  rwa [standing, if_neg (by simpa using hne)] at h

end RecordQuery.Clause
