import RecordQuery.Url.Host

/-!
# URLs

A URL in its parts, each of them in its encoded spelling, and its text.
-/
namespace RecordQuery

namespace Url

structure Authority where
  /-- Name and password before the host, with the colon between them. -/
  userinfo : List Char
  host : List Char
  portNumber : Option Nat
  deriving DecidableEq, Repr

inductive Location where
  /-- A path that is not divided into segments. -/
  | undivided (text : List Char)
  | segments (segments : List (List Char))
  deriving DecidableEq, Repr

end Url

structure Url where
  scheme : List Char
  authority : Option Url.Authority
  location : Url.Location
  query : Option (List Char)
  fragment : Option (List Char)
  deriving DecidableEq, Repr

namespace Url

def defaultPorts : List (List Char × Nat) :=
  [("http".toList, 80), ("https".toList, 443), ("ws".toList, 80), ("wss".toList, 443),
    ("ftp".toList, 21)]

def isFile (scheme : List Char) : Bool := scheme = "file".toList

/-- The schemes whose URLs always have a host and a divided path. -/
def isSpecial (scheme : List Char) : Bool :=
  isFile scheme || (defaultPorts.lookup scheme).isSome

def Authority.text (a : Authority) : List Char :=
  "//".toList ++ (if a.userinfo.isEmpty then [] else a.userinfo ++ ['@']) ++ a.host ++
    (match a.portNumber with
      | some n => ':' :: Text.Digits.ofNat n
      | none => [])

def segmentsText (segments : List (List Char)) : List Char := segments.flatMap ('/' :: ·)

def isSlash (special : Bool) (c : Char) : Bool := c = '/' || (special && c = '\\')

def lowerEscapes (segment : List Char) : List Char := segment.map Char.toLower

def isSingleDot (segment : List Char) : Bool :=
  [".", "%2e"].any fun s => s.toList = lowerEscapes segment

def isDoubleDot (segment : List Char) : Bool :=
  ["..", ".%2e", "%2e.", "%2e%2e"].any fun s => s.toList = lowerEscapes segment

/-- A letter and a colon, or a bar in its place. -/
def isDrive : List Char → Bool
  | [a, b] => a.isAlpha && (b = ':' || b = '|')
  | _ => false

/-- The pieces of a path, slashes of the scheme being equal. -/
def splitPath (special : Bool) (path : List Char) : List (List Char) :=
  (path.map fun c => if isSlash special c then '/' else c).splitOn '/'

def Location.firstSegment? : Location → Option (List Char)
  | .segments pieces => pieces.head?
  | .undivided _ => none

def Location.text : Location → List Char
  | .undivided text => text
  | .segments pieces => segmentsText pieces

/-- Without a host, a path that starts with an empty segment is marked as a path. -/
def locationText (u : Url) : List Char :=
  match u.authority, u.location with
  | none, .segments ([] :: s :: rest) => "/.".toList ++ segmentsText ([] :: s :: rest)
  | _, l => l.text

def queryText (u : Url) : List Char :=
  match u.query with
  | some q => '?' :: q
  | none => []

def chars (u : Url) : List Char :=
  u.scheme ++ ':' :: ((match u.authority with
    | some a => a.text
    | none => []) ++ u.locationText ++ u.queryText ++
    (match u.fragment with
      | some f => '#' :: f
      | none => []))

def text (u : Url) : String := String.ofList u.chars

/-- Path and query, as a request line holds them. -/
def requestTarget (u : Url) : String := String.ofList (u.location.text ++ u.queryText)

end Url

end RecordQuery
