/-!
# Member paths and aliases

A path names a member of a record through nested objects; as text its segments stand between
slashes. The empty path is the current scope itself. An alias table gives logical names the names
used on the wire.
-/
namespace RecordQuery

structure Path where
  segments : List String
  deriving DecidableEq, Repr

namespace Path

/-- The scope itself: the record, or the element inside a lambda. -/
def current : Path := ⟨[]⟩

def ofText (text : String) : Path :=
  if text.isEmpty then current else ⟨(text.toList.splitOn '/').map String.ofList⟩

def chars (p : Path) : List Char := List.intercalate ['/'] (p.segments.map String.toList)

def text (p : Path) : String := String.ofList p.chars

def isCurrent (p : Path) : Bool := p.segments.isEmpty

@[simp] theorem text_current : current.text = "" := rfl

end Path

/-- Pairs of a logical name and a wire name, one to a logical name. -/
structure Aliases where
  pairs : List (String × String)
  deriving Repr

namespace Aliases

def empty : Aliases := ⟨[]⟩

/-- A later pair replaces an earlier one with the same logical name. -/
def insert (a : Aliases) (logical wire : String) : Aliases :=
  if a.pairs.any (·.1 = logical) then
    ⟨a.pairs.map fun p => if p.1 = logical then (logical, wire) else p⟩
  else ⟨a.pairs ++ [(logical, wire)]⟩

def ofList (pairs : List (String × String)) : Aliases :=
  pairs.foldl (fun a p => a.insert p.1 p.2) empty

/-- The wire name of a whole name; a name without an alias stays as it is. -/
def resolve (a : Aliases) (name : String) : String := (a.pairs.lookup name).getD name

def resolvePath (a : Aliases) (p : Path) : Path := ⟨p.segments.map a.resolve⟩

def size (a : Aliases) : Nat := a.pairs.length

@[simp] theorem resolve_empty (name : String) : empty.resolve name = name := rfl

@[simp] theorem resolvePath_current (a : Aliases) : a.resolvePath .current = .current := rfl

end Aliases

end RecordQuery
