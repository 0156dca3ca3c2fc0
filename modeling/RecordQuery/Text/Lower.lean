import RecordQuery.Text.CaseTable

/-!
# Lower case

The full lower-case form of a text. A capital sigma that ends a word becomes the final sigma, so
the form of a character can depend on its neighbours.
-/
namespace RecordQuery.Text.Lower

def within (ranges : List (Nat × Nat)) (c : Char) : Bool :=
  ranges.any fun r => r.1 ≤ c.toNat && c.toNat ≤ r.2

def isIgnorable (c : Char) : Bool := within CaseTable.ignorableRanges c

def isCased (c : Char) : Bool := within CaseTable.casedRanges c

def lowerChar (c : Char) : List Char :=
  if c.toNat < 0x80 then [c.toLower]
  else if c = '\u0130' then ['i', '\u0307']
  else
    match CaseTable.lowerRanges.find? fun r =>
        r.1 ≤ c.toNat && c.toNat ≤ r.2.1 && (c.toNat - r.1) % r.2.2.1 = 0 with
    | some r => [Char.ofNat (r.2.2.2 + (c.toNat - r.1))]
    | none => [c]

/-- Whether a letter follows, characters to be passed over left out. -/
def meetsLetter (text : List Char) : Bool :=
  match text.dropWhile isIgnorable with
  | [] => false
  | c :: _ => isCased c

/-- The small sigma for a place, given what stands before it, in reverse, and after it. -/
def sigma (before after : List Char) : Char :=
  if meetsLetter before && !meetsLetter after then '\u03C2' else '\u03C3'

def lowerFrom (before : List Char) : List Char → List Char
  | [] => []
  | c :: rest =>
    (if c = '\u03A3' then [sigma before rest] else lowerChar c) ++ lowerFrom (c :: before) rest

def lower (text : List Char) : List Char := lowerFrom [] text

@[simp] theorem lower_nil : lower [] = [] := rfl

end RecordQuery.Text.Lower
