/-!
# Quoted strings

A string constant stands between single quotes, and a quote inside it is written twice. `scan?`
reads such a constant off the front of a text.
-/
namespace RecordQuery.Text.Quoted

def double : List Char → List Char
  | [] => []
  | c :: rest => if c = '\'' then '\'' :: '\'' :: double rest else c :: double rest

def quote (text : List Char) : List Char := '\'' :: (double text ++ ['\''])

/-- Reads up to the first quote that is not doubled. -/
def scanBody? : List Char → Option (List Char × List Char)
  | [] => none
  | '\'' :: '\'' :: rest => (scanBody? rest).map fun r => ('\'' :: r.1, r.2)
  | c :: rest =>
    if c = '\'' then some ([], rest) else (scanBody? rest).map fun r => (c :: r.1, r.2)

/-- The contents of the quoted string at the front of a text, and what follows it. -/
def scan? : List Char → Option (List Char × List Char)
  | '\'' :: rest => scanBody? rest
  | _ => none

@[simp] theorem double_nil : double [] = [] := rfl

@[simp] theorem double_quote (rest : List Char) :
    double ('\'' :: rest) = '\'' :: '\'' :: double rest := rfl

theorem double_cons {c : Char} (h : c ≠ '\'') (rest : List Char) :
    double (c :: rest) = c :: double rest := by
  simp [double, h]

theorem double_append (s t : List Char) : double (s ++ t) = double s ++ double t := by
  induction s with
  | nil => rfl
  | cons c s ih => by_cases h : c = '\'' <;> simp [double, h, ih]

end RecordQuery.Text.Quoted
