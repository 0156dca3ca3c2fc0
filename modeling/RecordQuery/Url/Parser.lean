import RecordQuery.Url.FilePath

/-!
# Reading URLs

A reference is read on its own or against a base. Blanks around it and line breaks and tabs in it
are dropped; query and fragment are cut off; what remains is a scheme, an authority and a path,
each of which may be missing and then comes from the base. Segments of one or two dots are
resolved as the path is read.
-/
namespace RecordQuery.Url

def isTabOrNewline (c : Char) : Bool := c = '\t' || c = '\n' || c = '\r'

def isControlOrSpace (c : Char) : Bool := c.toNat ≤ 0x20

def trim (text : List Char) : List Char :=
  ((text.dropWhile isControlOrSpace).reverse.dropWhile isControlOrSpace).reverse

def clean (text : List Char) : List Char := (trim text).filter (!isTabOrNewline ·)

def isSchemeChar (c : Char) : Bool := c.isAlphanum || c = '+' || c = '-' || c = '.'

/-- A scheme and its colon at the front. -/
def splitScheme? (text : List Char) : Option (List Char × List Char) :=
  if text.head?.any Char.isAlpha then
    match text.dropWhile isSchemeChar with
    | ':' :: rest => some ((text.takeWhile isSchemeChar).map Char.toLower, rest)
    | _ => none
  else none

/-- Everything before the first occurrence of a character, and what follows it, if it occurs. -/
def cut (c : Char) (text : List Char) : List Char × Option (List Char) :=
  match text.dropWhile (· ≠ c) with
  | [] => (text, none)
  | _ :: rest => (text.takeWhile (· ≠ c), some rest)

/-- A reference without its scheme: what comes before the query, the query and the fragment. -/
structure Remainder where
  front : List Char
  query : Option (List Char)
  fragment : Option (List Char)

def Remainder.of (text : List Char) : Remainder :=
  let (rest, fragment) := cut '#' text
  let (front, query) := cut '?' rest
  ⟨front, query, fragment⟩

def encodeQuery (scheme : List Char) (query : List Char) : List Char :=
  encode (querySet (isSpecial scheme)) query

def assemble (scheme : List Char) (authority : Option Authority) (location : Location)
    (r : Remainder) : Url :=
  ⟨scheme, authority, location, r.query.map (encodeQuery scheme),
    r.fragment.map (encode fragmentSet)⟩

/-- The segments that two dots leave: all but the last, unless it looks like a drive. -/
def parentSegments (before : List (List Char)) : List (List Char) :=
  if before.getLast?.any isDrive then before else before.dropLast

def resolveSegments (before : List (List Char)) : List (List Char) → List (List Char)
  | [] => before
  | segment :: rest =>
    let after :=
      if isDoubleDot segment then parentSegments before ++ (if rest.isEmpty then [[]] else [])
      else if isSingleDot segment then before ++ (if rest.isEmpty then [[]] else [])
      else before ++ [encode pathSet segment]
    resolveSegments after rest

def segmentsAfter (special : Bool) (before : List (List Char)) (path : List Char) : Location :=
  .segments (resolveSegments before (splitPath special path))

/-- The path behind an authority: it is empty or starts with a slash. -/
def absolutePath (special : Bool) (path : List Char) : Location :=
  match path with
  | [] => if special then .segments [[]] else .segments []
  | c :: rest => segmentsAfter special [] (if isSlash special c then rest else c :: rest)

/-- Splits off the part before the last at sign. -/
def splitUserinfo (text : List Char) : Option (List Char) × List Char :=
  match (text.reverse.dropWhile (· ≠ '@')) with
  | [] => (none, text)
  | _ :: before => (some before.reverse, (text.reverse.takeWhile (· ≠ '@')).reverse)

/-- Name and password, each encoded; an empty password is left out. -/
def encodeUserinfo (text : List Char) : List Char :=
  let (name, password) := cut ':' text
  encode userinfoSet name ++
    match password with
    | none | some [] => []
    | some p => ':' :: encode userinfoSet p

/-- The length of the host in front of the port number: a colon in brackets belongs to the host. -/
def hostLength (inBrackets : Bool) : List Char → Nat
  | [] => 0
  | c :: rest =>
    if c = ':' && !inBrackets then 0
    else hostLength (if c = '[' then true else if c = ']' then false else inBrackets) rest + 1

/-- The port number; the usual one of the scheme is left out. -/
def portNumber? (scheme : List Char) (text : List Char) : Option (Option Nat) :=
  if text.isEmpty then some none
  else if !text.all Char.isDigit then none
  else
    let n := Text.Digits.value text
    if 65535 < n then none
    else some (if defaultPorts.lookup scheme = some n then none else some n)

def authority? (scheme : List Char) (text : List Char) : Option Authority := do
  let (userinfo, rest) := splitUserinfo text
  let userinfo := (userinfo.map encodeUserinfo).getD []
  let length := hostLength false rest
  let hostText := rest.take length
  let special := isSpecial scheme
  if hostText.isEmpty then
    if special || !userinfo.isEmpty || (rest.drop length).head? = some ':' then none
    else some ⟨[], [], none⟩
  else
    let host ← if special then Host.domain? hostText else Host.opaque? hostText
    return ⟨userinfo, host, ← portNumber? scheme ((rest.drop length).drop 1)⟩

def withAuthority? (scheme : List Char) (front : List Char) (r : Remainder) : Option Url := do
  let special := isSpecial scheme
  let authority ← authority? scheme (front.takeWhile (!isSlash special ·))
  let path := absolutePath special (front.dropWhile (!isSlash special ·))
  return assemble scheme (some authority) path r

/-- The authority of a file, which may be empty. -/
def fileAuthority? (host : List Char) : Option Authority :=
  if host.isEmpty then some ⟨[], [], none⟩
  else do
    let host ← Host.domain? host
    return ⟨[], if host = "localhost".toList then [] else host, none⟩

def Location.parent : Location → List (List Char)
  | .segments pieces => pieces.dropLast
  | .undivided _ => []

def noAuthority : Authority := ⟨[], [], none⟩

def fileScheme : List Char := "file".toList

/-- A file whose path goes on behind the given one; a drive stands without a host. -/
def filePath (authority : Authority) (path front : List Char) (r : Remainder) : Url :=
  let pieces := (splitPath true front).map (encode pathSet)
  let g := FilePath.addAll ⟨path, true⟩ pieces
  assemble fileScheme (some (if g.hasHost then authority else noAuthority))
    (FilePath.location g.path) r

/-- Reads on behind two slashes: a host or a drive, and the path. -/
def fileWithHost? (front : List Char) (r : Remainder) : Option Url := do
  let host := front.takeWhile (!isSlash true ·)
  let rest := front.dropWhile (!isSlash true ·)
  if isDrive host then return filePath noAuthority ['/'] front r
  else
    let authority ← fileAuthority? host
    if authority.host.isEmpty then return filePath authority [] rest r
    else return filePath authority ['/'] (rest.drop 1) r

/-- Reads on behind one slash: the drive of the base stays, or else its host. -/
def fileFromRoot (base : Option Url) (front : List Char) (r : Remainder) : Url :=
  if FilePath.startsWithDrive (front.drop 1) then filePath noAuthority [] front r
  else
    match base.bind fun b => b.location.firstSegment?.filter FilePath.isNamedDrive with
    | some drive => filePath noAuthority ('/' :: drive) front r
    | none => filePath ((base.bind Url.authority).getD noAuthority) [] front r

def file? (base : Option Url) (r : Remainder) : Option Url :=
  let base := base.filter fun b => isFile b.scheme
  match r.front with
  | [] =>
    match base with
    | some b =>
      some { assemble fileScheme b.authority b.location r with
             query := (r.query.map (encodeQuery fileScheme)).or b.query }
    | none => some (assemble fileScheme (some noAuthority) (.segments [[]]) r)
  | a :: rest =>
    if isSlash true a then
      if rest.head?.any (isSlash true) then fileWithHost? (rest.drop 1) r
      else some (fileFromRoot base (a :: rest) r)
    else
      match base with
      | some b =>
        if FilePath.startsWithDrive (a :: rest) then some (filePath noAuthority ['/'] (a :: rest) r)
        else
          let u := filePath noAuthority (FilePath.shorten b.location.text) (a :: rest) r
          some { u with authority := b.authority }
      | none => some (filePath noAuthority ['/'] (a :: rest) r)

/-- A reference without a scheme of its own, or with that of the base. -/
def relative? (base : Url) (r : Remainder) : Option Url :=
  let special := isSpecial base.scheme
  match r.front with
  | [] =>
    let u := assemble base.scheme base.authority base.location r
    some { u with query := u.query.or base.query }
  | c :: rest =>
    if isSlash true c then
      match rest with
      | d :: rest' =>
        if c = '/' ∧ d = '/' then withAuthority? base.scheme rest' r
        else if isSlash true d then
          withAuthority? base.scheme (rest'.dropWhile (isSlash true)) r
        else some (assemble base.scheme base.authority (segmentsAfter special [] rest) r)
      | [] => some (assemble base.scheme base.authority (segmentsAfter special [] rest) r)
    else
      some (assemble base.scheme base.authority
        (segmentsAfter special base.location.parent (c :: rest)) r)

/-- A reference with a scheme. -/
def absolute? (base : Option Url) (scheme : List Char) (r : Remainder) : Option Url :=
  if isFile scheme then file? base r
  else if isSpecial scheme then
    let slashes := r.front.takeWhile (isSlash true)
    match base with
    | some b =>
      if b.scheme = scheme ∧ slashes.length < 2 then relative? b r
      else withAuthority? scheme (r.front.dropWhile (isSlash true)) r
    | none => withAuthority? scheme (r.front.dropWhile (isSlash true)) r
  else
    match r.front with
    | '/' :: '/' :: rest => withAuthority? scheme rest r
    | '/' :: rest => some (assemble scheme none (segmentsAfter false [] rest) r)
    | front => some (assemble scheme none (.undivided (encode controlSet front)) r)

/-- Reads a reference; one without a scheme needs a base, and a base with an undivided path takes
only a fragment. -/
def read? (base : Option Url) (text : List Char) : Option Url :=
  let text := clean text
  match splitScheme? text with
  | some (scheme, rest) => absolute? base scheme (.of rest)
  | none => do
    let b ← base
    let r := Remainder.of text
    match b.location with
    | .undivided _ =>
      if text.head? = some '#' then
        some { assemble b.scheme b.authority b.location r with query := b.query }
      else none
    | .segments _ => if isFile b.scheme then file? base r else relative? b r

def parse? (text : String) : Option Url := read? none text.toList

def join? (base : Url) (reference : String) : Option Url := read? (some base) reference.toList

/-- Gives a URL another query; tabs and line breaks are dropped from it. -/
def withQuery (u : Url) (query : List Char) : Url :=
  { u with query := some (encodeQuery u.scheme (query.filter (!isTabOrNewline ·))) }

end RecordQuery.Url
