import RecordQuery.Text.Composition
import RecordQuery.Text.Lower
import RecordQuery.Url.DomainTable
import RecordQuery.Url.Label
import RecordQuery.Url.Punycode

/-!
# Domains

The one spelling of a domain in ASCII. Characters are replaced by their images, and a label with
characters outside ASCII is written in Punycode behind `xn--`; a label that is given in this form
already has to stand for one that could be given itself.
-/
namespace RecordQuery.Url.Domain

/-- What a character is written with; some must not stand in a domain. -/
def image? (c : Char) : Option (List Char) :=
  if c.toNat < 0x80 then some [c.toLower]
  else if DomainTable.ignored.has c then some []
  else
    match DomainTable.images.image? c with
    | some text => some text
    | none => if DomainTable.refused.has c then none else some (Text.Lower.lowerChar c)

/-- The labels of a domain in the form in which they are compared. -/
def labels? (domain : List Char) : Option (List (List Char)) := do
  let images ← domain.mapM image?
  return (Text.Composition.normalize images.flatten).splitOn '.'

def isAscii (label : List Char) : Bool := label.all fun c => c.toNat < 0x80

def encodedMark : List Char := "xn--".toList

/-- The label that is meant. An encoded one stands for a label outside ASCII that is its own
image; labels too long to be encoded or decoded are refused. -/
def meaning? (label : List Char) : Option (List Char) :=
  if encodedMark.isPrefixOf label then
    let text := label.drop encodedMark.length
    if !isAscii label || label.getLast? = some '-' || 2000 < text.length then none
    else
      (Punycode.decode? text).filter fun meant =>
        meant.all (fun c => image? c = some [c]) && Text.Composition.normalize meant = meant &&
          !encodedMark.isPrefixOf meant
  else if !isAscii label && 1000 < label.length then none
  else some label

def labelToAscii (label : List Char) : List Char :=
  if isAscii label then label else encodedMark ++ Punycode.encode label

/-- The domain in ASCII, if its labels are well formed alone and together. -/
def toAscii? (domain : List Char) : Option (List Char) := do
  let labels ← labels? domain
  let meant ← labels.mapM meaning?
  if meant.all Label.isWellFormed &&
      (!meant.any Label.hasRightToLeft || meant.all Label.isUniform) then
    return ((labels.map labelToAscii).intersperse ['.']).flatten
  else none

end RecordQuery.Url.Domain
