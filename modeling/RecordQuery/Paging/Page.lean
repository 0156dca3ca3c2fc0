import RecordQuery.Json.Reader

/-!
# Pages

One page of records as a service sends it. The members of the page are read strictly, each at
most once; members that are not asked for need only be well formed.
-/
namespace RecordQuery

structure Page where
  nextLink : Option String
  records : List Json
  totalCount : Option Nat

namespace Page

open Json (decode? decodePieces? maxDepth)
open Json.Syntax (Piece Tree)

def link? : Option Tree → Option (Option String)
  | none | some .null => some none
  | some (.string pieces) => (decodePieces? pieces).map fun s => some (String.ofList s)
  | _ => none

def count? : Option Tree → Option (Option Nat)
  | none | some .null => some none
  | some (.number n) => do
    match ← Json.decodeNumber? n with
    | .integer i => if 0 ≤ i then some (some i.toNat) else none
    | .real _ => none
  | _ => none

def records? : Option Tree → Option (List Json)
  | some (.array items) => do (← decode? (maxDepth - 1) (.array items)).toArray?
  | _ => none

def ofParts? (link records count : Option Tree) : Option Page := do
  return ⟨← link? link, ← records? records, ← count? count⟩

/-- The member of a name: none, one, or a failure if there are more. -/
def single? (members : List (List Char × Tree)) (name : String) : Option (Option Tree) :=
  match members.filter (·.1 = name.toList) with
  | [] => some none
  | [m] => some (some m.2)
  | _ => none

def ofTree? : Tree → Option Page
  | .object members => do
    let members ← members.mapM fun m => (decodePieces? m.1).map (·, m.2)
    ofParts? (← single? members "@odata.nextLink") (← single? members "value")
      (← single? members "@odata.count")
  | .array [link, records] => ofParts? (some link) (some records) none
  | .array [link, records, count] => ofParts? (some link) (some records) (some count)
  | _ => none

/-- Either the whole page is read, or nothing of it. -/
def parse? (body : List UInt8) : Option Page := do
  ofTree? (← Json.Syntax.parse? (Text.Utf8.decode body))

/-- Where the next page is; an empty link leads nowhere. -/
def continuation (p : Page) : Option String := p.nextLink.filter (· ≠ "")

def isLast (p : Page) : Bool := p.continuation.isNone

end Page

end RecordQuery
