import RecordQuery.Text.CompositionTable

/-!
# Composed characters

The composed form of a text (NFC): characters are taken apart, the marks behind a character are
put into the order of their classes, and what can be one character becomes one again.
-/
namespace RecordQuery.Text.Composition

/-- Marks of different classes do not touch each other; class zero is that of all characters but
marks. -/
def combiningClass (c : Char) : Nat :=
  if c.toNat < 0x300 then 0 else CompositionTable.classes.value c

/-! ## Syllables of Hangul -/

/-- A syllable of two letters, or of such a syllable and a third letter. -/
def syllable? (a b : Char) : Option Char :=
  let m := a.toNat
  let n := b.toNat
  if 0x1100 ≤ m ∧ m < 0x1113 ∧ 0x1161 ≤ n ∧ n < 0x1176 then
    some (Char.ofNat (0xAC00 + ((m - 0x1100) * 21 + (n - 0x1161)) * 28))
  else if 0xAC00 ≤ m ∧ m < 0xD7A4 ∧ (m - 0xAC00) % 28 = 0 ∧ 0x11A7 < n ∧ n < 0x11C3 then
    some (Char.ofNat (m + (n - 0x11A7)))
  else none

def letters? (c : Char) : Option (List Char) :=
  if 0xAC00 ≤ c.toNat ∧ c.toNat < 0xD7A4 then
    let n := c.toNat - 0xAC00
    let pair := [Char.ofNat (0x1100 + n / 588), Char.ofNat (0x1161 + n % 588 / 28)]
    some (if n % 28 = 0 then pair else pair ++ [Char.ofNat (0x11A7 + n % 28)])
  else none

/-! ## Taking apart -/

/-- The parts of a character; `depth` bounds how often its first part is composed again. -/
def partsFrom : Nat → Char → List Char
  | 0, c => [c]
  | depth + 1, c =>
    match CompositionTable.composites.image? c with
    | some (first :: others) => partsFrom depth first ++ others
    | _ => [c]

def parts (c : Char) : List Char :=
  if c.toNat < 0xC0 then [c] else (letters? c).getD (partsFrom 4 c)

/-- Puts a character behind others, which are in reverse. A mark goes before the marks of greater
classes. -/
def putBehind (before : List Char) (c : Char) : List Char :=
  match before with
  | [] => [c]
  | d :: rest =>
    if 0 < combiningClass c ∧ combiningClass c < combiningClass d then d :: putBehind rest c
    else c :: d :: rest

def decompose (text : List Char) : List Char :=
  ((text.flatMap parts).foldl putBehind []).reverse

/-! ## Putting together -/

def compose? (a b : Char) : Option Char :=
  (syllable? a b).or (CompositionTable.composites.ofImage? [a, b])

/-- Goes on behind a character and the marks that did not become one with it, which are in
reverse. A mark is kept apart by one of its own class or a greater one. -/
def composeFrom (base : Char) (marks : List Char) : List Char → List Char
  | [] => base :: marks.reverse
  | c :: rest =>
    let apart := marks.head?.any fun m => combiningClass c ≤ combiningClass m
    match if apart then none else compose? base c with
    | some composed => composeFrom composed marks rest
    | none =>
      if combiningClass c = 0 then base :: (marks.reverse ++ composeFrom c [] rest)
      else composeFrom base (c :: marks) rest

def compose (text : List Char) : List Char :=
  match text.dropWhile (combiningClass · ≠ 0) with
  | [] => text
  | base :: rest => text.takeWhile (combiningClass · ≠ 0) ++ composeFrom base [] rest

def normalize (text : List Char) : List Char := compose (decompose text)

end RecordQuery.Text.Composition
