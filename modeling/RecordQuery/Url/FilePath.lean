import RecordQuery.Url.Basic

/-!
# Paths of files

The path of a file URL as it grows while a reference is read. A first segment of one letter and a
colon or a bar names a drive: it is written with a colon, it stands without a host before it, and
neither a segment of two dots nor a path of its own takes a reference out of it. Slashes at the
front of a path count as one.
-/
namespace RecordQuery.Url.FilePath

def isNamedDrive (segment : List Char) : Bool := isDrive segment && segment.getLast? = some ':'

/-- A drive that is followed by nothing or by the next segment. -/
def startsWithDrive (text : List Char) : Bool :=
  isDrive (text.take 2) && (text.drop 2).head?.all fun c => c = '/' || c = '\\'

def lastSegment (path : List Char) : List Char := (path.reverse.takeWhile (· ≠ '/')).reverse

/-- Takes the last segment away unless it is a drive; the slash before it stays. -/
def shorten (path : List Char) : List Char :=
  let segment := lastSegment path
  if isNamedDrive segment then path else path.take (path.length - segment.length)

/-- Takes the slash at the end away, unless it is the only one or belongs to a drive. -/
def dropSlash (path : List Char) : List Char :=
  if path.getLast? = some '/' && path.dropLast.contains '/' then
    let segment := lastSegment path.dropLast
    if isDrive segment then path else path.dropLast
  else path

def withSlash (path : List Char) : List Char :=
  if path.getLast? = some '/' then path else path ++ ['/']

structure Growth where
  path : List Char
  hasHost : Bool

/-- Adds a segment, given in its encoded spelling, and the slash behind it if there is one. -/
def add (g : Growth) (segment : List Char) (slash : Bool) : Growth :=
  let path := if !segment.isEmpty && isNamedDrive g.path.tail then g.path ++ ['/'] else g.path
  let slashText := if slash then ['/'] else []
  if isDoubleDot segment then
    let path := shorten (dropSlash path)
    { g with path := if slash then withSlash path else path }
  else if isSingleDot segment then { g with path := withSlash path }
  else if path.length = 1 && isDrive segment then
    ⟨path ++ segment.take 1 ++ ':' :: slashText, false⟩
  else { g with path := path ++ segment ++ slashText }

def addAll (g : Growth) : List (List Char) → Growth
  | [] => g
  | [segment] => add g segment false
  | segment :: rest => addAll (add g segment true) rest

/-- The segments of a path; it starts with any number of slashes. -/
def location (path : List Char) : Location :=
  .segments ((path.dropWhile (· = '/')).splitOn '/')

end RecordQuery.Url.FilePath
