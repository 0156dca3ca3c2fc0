import RecordQuery.Text.Composition
import RecordQuery.Url.LabelTable

/-!
# Labels

What the characters of a label of a domain have to fulfil together: no mark begins a label,
invisible joiners stand only where they change what is seen, and where letters are read from right
to left, no label has parts of both directions.
-/
namespace RecordQuery.Url.Label

open Text.Composition (combiningClass)

/-- Whether the letters before and behind a place would join; what stands before is in reverse. -/
def joins (before after : List Char) : Bool :=
  let next? (text : List Char) : Option Char :=
    (text.dropWhile LabelTable.transparent.has).head?
  (next? before).any (fun c => LabelTable.dual.has c || LabelTable.left.has c) &&
    (next? after).any fun c => LabelTable.dual.has c || LabelTable.right.has c

/-- Behind a sign that takes a vowel away both joiners may stand, elsewhere only the one that keeps
letters apart, and only where they would join. -/
def joinersFit (before : List Char) : List Char → Bool
  | [] => true
  | c :: rest =>
    let allowed :=
      if c = '\u200C' ∨ c = '\u200D' then
        before.head?.any (combiningClass · = 9) || (c = '\u200C' && joins before rest)
      else true
    allowed && joinersFit (c :: before) rest

def isWellFormed (label : List Char) : Bool :=
  !label.head?.any LabelTable.marks.has && joinersFit [] label

/-! ## Directions -/

inductive Direction where
  | leftToRight | rightToLeft | arabicNumber | europeanNumber | nonspacing | neutral
  deriving DecidableEq

def direction (c : Char) : Direction :=
  if LabelTable.rightToLeft.has c then .rightToLeft
  else if LabelTable.arabicNumbers.has c then .arabicNumber
  else if LabelTable.europeanNumbers.has c then .europeanNumber
  else if LabelTable.nonspacing.has c then .nonspacing
  else if LabelTable.neutral.has c then .neutral
  else .leftToRight

def hasRightToLeft (label : List Char) : Bool :=
  label.any fun c => direction c = .rightToLeft || direction c = .arabicNumber

/-- Whether all of a label is read in the direction of its first letter. It must not begin with a
number or a sign nor end with a sign, and must not hold numbers of both kinds. -/
def isUniform (label : List Char) : Bool :=
  let ds := label.map direction
  let last := (ds.reverse.dropWhile (· = .nonspacing)).head?
  match ds.head? with
  | none => true
  | some .leftToRight =>
    ds.all (fun d => d ≠ .rightToLeft && d ≠ .arabicNumber) && last.all (· ≠ .neutral)
  | some .rightToLeft =>
    ds.all (· ≠ .leftToRight) && last.all (· ≠ .neutral) &&
      !(ds.contains .arabicNumber && ds.contains .europeanNumber)
  | some _ => false

end RecordQuery.Url.Label
