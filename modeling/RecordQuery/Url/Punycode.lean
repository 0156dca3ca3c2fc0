/-!
# Punycode

The form of a label with characters outside ASCII: its ASCII characters, and behind a hyphen the
others as a sequence of differences in base thirty-six.
-/
namespace RecordQuery.Url.Punycode

def digit (d : Nat) : Char :=
  if d < 26 then Char.ofNat ('a'.toNat + d) else Char.ofNat ('0'.toNat + (d - 26))

def threshold (k bias : Nat) : Nat :=
  if k ≤ bias then 1 else if bias + 26 ≤ k then 26 else k - bias

def adaptLoop : Nat → Nat → Nat → Nat
  | 0, delta, k => k + 36 * delta / (delta + 38)
  | fuel + 1, delta, k =>
    if 455 < delta then adaptLoop fuel (delta / 35) (k + 36) else k + 36 * delta / (delta + 38)

/-- The bias for the next difference. -/
def adapt (delta count : Nat) (first : Bool) : Nat :=
  let delta := if first then delta / 700 else delta / 2
  adaptLoop 32 (delta + delta / count) 0

/-- A difference as digits, the least significant first. -/
def digits (bias : Nat) : Nat → Nat → Nat → List Char
  | 0, _, _ => []
  | fuel + 1, k, q =>
    let t := threshold k bias
    if q < t then [digit q]
    else digit (t + (q - t) % (36 - t)) :: digits bias fuel (k + 36) ((q - t) / (36 - t))

structure State where
  output : List Char
  delta : Nat
  bias : Nat
  handled : Nat

/-- One character of the label, while the characters of code point `m` are written. -/
def visit (basic m : Nat) (s : State) (c : Char) : State :=
  if c.toNat < m then { s with delta := s.delta + 1 }
  else if c.toNat = m then
    ⟨s.output ++ digits s.bias 64 36 s.delta, 0,
      adapt s.delta (s.handled + 1) (s.handled = basic), s.handled + 1⟩
  else s

/-- Writes the code points of a list, which holds those outside ASCII in rising order. -/
def writeAll (label : List Char) (basic : Nat) : List Nat → Nat → State → State
  | [], _, s => s
  | m :: rest, n, s =>
    let s := label.foldl (visit basic m) { s with delta := s.delta + (m - n) * (s.handled + 1) }
    writeAll label basic rest (m + 1) { s with delta := s.delta + 1 }

def encode (label : List Char) : List Char :=
  let basic := label.filter fun c => c.toNat < 0x80
  let others := ((label.filter fun c => 0x80 ≤ c.toNat).map Char.toNat).mergeSort.eraseDups
  let s := writeAll label basic.length others 0x80 ⟨[], 0, 72, basic.length⟩
  basic ++ (if basic.isEmpty then [] else ['-']) ++ s.output

/-! ## Reading -/

def digitValue? (c : Char) : Option Nat :=
  if 'a' ≤ c ∧ c ≤ 'z' then some (c.toNat - 'a'.toNat)
  else if c.isDigit then some (c.toNat - '0'.toNat + 26)
  else none

/-- The difference at the front; `weight` is what its next digit counts. -/
def difference? (bias : Nat) : List Char → Nat → Nat → Option (Nat × List Char)
  | [], _, _ => none
  | c :: rest, k, weight => do
    let d ← digitValue? c
    let t := threshold k bias
    if d < t then return (d * weight, rest)
    else
      let (more, rest) ← difference? bias rest (k + 36) (weight * (36 - t))
      return (d * weight + more, rest)

/-- Puts characters into a label as the differences say, the next one at place `i` or behind it. -/
def readAll? : Nat → List Char → Nat → Nat → Nat → List Char → Option (List Char)
  | 0, _, _, _, _, _ => none
  | _, [], _, _, _, label => some label
  | fuel + 1, text, n, i, bias, label => do
    let (delta, rest) ← difference? bias text 36 1
    let count := label.length + 1
    let n := n + (i + delta) / count
    let place := (i + delta) % count
    if n.isValidChar then
      readAll? fuel rest n (place + 1) (adapt delta count (i = 0))
        (label.take place ++ Char.ofNat n :: label.drop place)
    else none

def decode? (text : List Char) : Option (List Char) :=
  let digits := (text.reverse.takeWhile (· ≠ '-')).reverse
  let basic := text.take (text.length - digits.length - 1)
  let digits := if basic.isEmpty then text else digits
  readAll? (digits.length + 1) digits 0x80 0 72 basic

end RecordQuery.Url.Punycode
