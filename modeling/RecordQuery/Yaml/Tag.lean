import RecordQuery.Text.Digits
import RecordQuery.Text.Utf8
import RecordQuery.Yaml.Place

/-!
# YAML tags

A tag is a sequence of bytes. It is written behind an exclamation mark, in full or with a handle
that stands for its beginning; directives in front of a document say what the handles stand for.
-/
namespace RecordQuery.Yaml

/-- A character of an anchor, a handle or the name of a directive. -/
def isNameChar (c : Char) : Bool := c.isAlphanum || c = '_' || c = '-'

abbrev Tag := List UInt8

namespace Tag

def ofString (s : String) : Tag := Text.Utf8.encode s.toList

/-- The tag of a type that every text of the language may use. -/
def core (name : String) : Tag := ofString ("tag:yaml.org,2002:" ++ name)

/-- Whether the tag belongs to an application, and its name is a text. -/
def isLocal (t : Tag) : Bool :=
  match t with
  | [] => false
  | b :: name => b = UInt8.ofNat '!'.toNat && (name.isEmpty || (Text.Utf8.decode? name).isSome)

/-- The characters a tag may be written with; commas and brackets only if the tag is `wide`. -/
def isPart (wide : Bool) (c : Char) : Bool :=
  isNameChar c || ";/?:@&=+$.!~*'()".toList.contains c || (wide && ",[]".toList.contains c)

/-- How many bytes follow the first one of a character. -/
def followers? (lead : Nat) : Option Nat :=
  if lead < 0x80 then some 0
  else if lead < 0xC0 then none
  else if lead < 0xE0 then some 1
  else if lead < 0xF0 then some 2
  else if lead < 0xF8 then some 3
  else none

/-- The bytes at the front of a text, in which escapes stand for bytes; `missing` more bytes of a
character have to be escaped. -/
def bytes? (wide : Bool) : Nat → List Char → Option (List UInt8 × List Char)
  | missing, '%' :: a :: b :: rest => do
    let n ← Text.Digits.inRadix? 16 [a, b]
    let missing ← match missing with
      | 0 => followers? n
      | k + 1 => if 0x80 ≤ n ∧ n < 0xC0 then some k else none
    (bytes? wide missing rest).map fun r => (UInt8.ofNat n :: r.1, r.2)
  | _ + 1, _ => none
  | 0, [] => some ([], [])
  | 0, c :: rest =>
    if c = '%' then none
    else if isPart wide c then
      (bytes? wide 0 rest).map fun r => (UInt8.ofNat c.toNat :: r.1, r.2)
    else some ([], c :: rest)

/-- One byte or more; those from a zero on do not count. -/
def content? (wide : Bool) (text : List Char) : Option (Tag × List Char) := do
  let (bytes, rest) ← bytes? wide 0 text
  if bytes.isEmpty then none else return (bytes.takeWhile (· ≠ 0), rest)

structure Written where
  /-- Empty if the tag is written in full. -/
  handle : List Char
  suffix : Tag
  deriving DecidableEq

/-- The tag at the front of a text, which starts with an exclamation mark. -/
def written? (text : List Char) : Option (Written × List Char) :=
  match text with
  | '!' :: '<' :: rest => do
    match ← content? true rest with
    | (tag, '>' :: rest) => some (⟨[], tag⟩, rest)
    | _ => none
  | '!' :: rest =>
    match rest.dropWhile isNameChar with
    | '!' :: after => do
      let (suffix, after) ← content? false after
      return (⟨'!' :: (rest.takeWhile isNameChar ++ ['!']), suffix⟩, after)
    | _ => do
      let (bytes, rest) ← bytes? false 0 rest
      let suffix := bytes.takeWhile (· ≠ 0)
      if suffix.isEmpty then return (⟨[], ofString "!"⟩, rest) else return (⟨['!'], suffix⟩, rest)
  | _ => none

end Tag

/-- What stands behind a percent sign in front of a document. -/
inductive Directive where
  | version (major minor : Nat)
  /-- The handle stands for the given beginning of a tag. -/
  | handle (name : List Char) (start : Tag)
  deriving DecidableEq

namespace Directive

def number? (text : List Char) : Option (Nat × List Char) :=
  let (digits, rest) := Text.Digits.span text
  if digits.isEmpty || 9 < digits.length then none else some (Text.Digits.value digits, rest)

def version? (text : List Char) : Option (Directive × List Char) := do
  let (major, rest) ← number? text
  match rest with
  | '.' :: rest => (number? rest).map fun r => (.version major r.1, r.2)
  | _ => none

/-- A handle is one exclamation mark, or a name between two. -/
def handle? (text : List Char) : Option (List Char × List Char) :=
  match text with
  | '!' :: rest =>
    let name := rest.takeWhile isNameChar
    match name, rest.dropWhile isNameChar with
    | name, '!' :: after => some ('!' :: (name ++ ['!']), after)
    | [], after => some (['!'], after)
    | _ :: _, _ => none
  | _ => none

def handles? (text : List Char) : Option (Directive × List Char) := do
  let (name, rest) ← handle? text
  if !rest.head?.any isBlank then none
  else
    let (start, rest) ← Tag.content? true (rest.dropWhile isBlank)
    if endsWord rest then return (.handle name start, rest) else none

def read? (text : List Char) : Option (Directive × List Char) := do
  let name := text.takeWhile isNameChar
  let rest := text.dropWhile isNameChar
  let (d, rest) ←
    if !endsWord rest then none
    else if name = "YAML".toList then version? (rest.dropWhile isBlank)
    else if name = "TAG".toList then handles? (rest.dropWhile isBlank)
    else none
  let rest := skipComment rest
  if endsLine rest then return (d, rest) else none

end Directive

abbrev Handles := List (List Char × Tag)

namespace Handles

/-- The handles that need no directive. -/
def default : Handles :=
  [(['!'], Tag.ofString "!"), (['!', '!'], Tag.core "")]

/-- A document gives its version at most once, which is 1.1 or 1.2, and each handle at most
once. -/
def ofDirectives? (directives : List Directive) : Option Handles :=
  let versions := directives.filterMap fun
    | .version major minor => some (major, minor)
    | .handle _ _ => none
  let given : Handles := directives.filterMap fun
    | .version _ _ => none
    | .handle name start => some (name, start)
  let names := given.map (·.1)
  if versions.length ≤ 1 && versions.all (fun v => v = (1, 1) || v = (1, 2)) &&
      names.all (fun name => names.count name = 1) then
    some (given ++ default)
  else none

/-- The tag that is meant; none if its handle stands for nothing. -/
def resolve? (handles : Handles) (t : Tag.Written) : Option Tag :=
  if t.handle.isEmpty then some t.suffix else (handles.lookup t.handle).map (· ++ t.suffix)

end Handles

end RecordQuery.Yaml
