import RecordQuery.Text.Digits
import RecordQuery.Url.Domain
import RecordQuery.Url.Encoding

/-!
# Hosts

The host of a URL in its one spelling: a domain in lower case and in ASCII, an IPv4 address as
four decimal numbers, an IPv6 address in brackets with its longest run of zeros left out, or, in
a URL without a known scheme, an opaque name.
-/
namespace RecordQuery.Url.Host

def splitAt (c : Char) (text : List Char) : List (List Char) := text.splitOn c

def dotted (parts : List (List Char)) : List Char := (parts.intersperse ['.']).flatten

/-! ## IPv4 -/

/-- A number in decimal, in octal behind a zero, or in hexadecimal behind `0x`. -/
def number? (text : List Char) : Option Nat :=
  match text with
  | [] => none
  | '0' :: 'x' :: rest | '0' :: 'X' :: rest => Text.Digits.inRadix? 16 rest
  | '0' :: c :: rest => Text.Digits.inRadix? 8 (c :: rest)
  | _ => Text.Digits.inRadix? 10 text

/-- The parts between the points; a point at the end counts for nothing. -/
def ipv4Parts (text : List Char) : List (List Char) :=
  let parts := splitAt '.' text
  if 1 < parts.length ∧ parts.getLast? = some [] then parts.dropLast else parts

/-- Whether the last part makes a domain an address. -/
def endsInNumber (text : List Char) : Bool :=
  match (ipv4Parts text).getLast? with
  | some part => (!part.isEmpty && part.all Char.isDigit) || (number? part).isSome
  | none => false

/-- All parts but the last are bytes; the last fills up the rest of the address. -/
def ipv4? (text : List Char) : Option Nat := do
  let parts := ipv4Parts text
  let numbers ← parts.mapM number?
  let last ← numbers.getLast?
  let first := numbers.dropLast
  if 4 < parts.length ∨ first.any (255 < ·) ∨ Nat.pow 256 (5 - parts.length) ≤ last then none
  else
    return (first.zipIdx.map fun p => p.1 * Nat.pow 256 (3 - p.2)).foldr Nat.add last

def ipv4Text (n : Nat) : List Char :=
  dotted ([3, 2, 1, 0].map fun k => Text.Digits.ofNat (n / Nat.pow 256 k % 256))

/-! ## IPv6 -/

/-- Four decimal bytes without superfluous zeros, as two pieces. -/
def ipv4Tail? (text : List Char) : Option (List Nat) := do
  let bytes ← (splitAt '.' text).mapM fun part => do
    let n ← Text.Digits.readNat? part
    if 3 < part.length ∨ 255 < n ∨ (1 < part.length ∧ part.head? = some '0') ∨
        !part.all Char.isDigit then none
    else some n
  match bytes with
  | [a, b, c, d] => some [256 * a + b, 256 * c + d]
  | _ => none

def piece? (part : List Char) : Option Nat :=
  if part.isEmpty || 4 < part.length then none else Text.Digits.inRadix? 16 part

/-- Pieces between colons; the last may be an IPv4 address. -/
def pieces? (text : List Char) : Option (List Nat) :=
  if text.isEmpty then some []
  else do
    let parts := splitAt ':' text
    let last ← parts.getLast?
    let tail ← if last.contains '.' then ipv4Tail? last else (piece? last).map ([·])
    return (← parts.dropLast.mapM piece?) ++ tail

def splitDoubleColon : List Char → Option (List Char × List Char)
  | [] => none
  | ':' :: ':' :: rest => some ([], rest)
  | c :: rest => (splitDoubleColon rest).map fun p => (c :: p.1, p.2)

def ipv6? (text : List Char) : Option (List Nat) :=
  match splitDoubleColon text with
  | none => do
    let ps ← pieces? text
    if ps.length = 8 then some ps else none
  | some (front, back) => do
    let front ← if front.contains '.' then none else pieces? front
    let back ← pieces? back
    if front.length + back.length ≤ 7 then
      some (front ++ List.replicate (8 - front.length - back.length) 0 ++ back)
    else none

def zeroRun (ps : List Nat) : Nat := (ps.takeWhile (· = 0)).length

/-- Where the first longest run of zeros starts, and its length. -/
def longestZeros (ps : List Nat) : Nat × Nat :=
  (List.range ps.length).foldl
    (fun best i => let n := zeroRun (ps.drop i); if best.2 < n then (i, n) else best) (0, 0)

def ipv6Text (ps : List Nat) : List Char :=
  let join (ps : List Nat) : List Char := ((ps.map (Nat.toDigits 16)).intersperse [':']).flatten
  let (start, count) := longestZeros ps
  if count < 2 then join ps
  else join (ps.take start) ++ [':', ':'] ++ join (ps.drop (start + count))

/-! ## Domains -/

def isForbiddenInDomain (c : Char) : Bool :=
  c.toNat ≤ 0x20 || c.toNat = 0x7F || oneOf "#%/:<>?@[\\]^|" c

def isForbiddenInOpaque (c : Char) : Bool :=
  c.toNat = 0 || oneOf "\t\n\r #/:<>?@[\\]^|" c

def bracketed? (text : List Char) : Option (List Char) :=
  match text with
  | '[' :: rest =>
    if rest.getLast? = some ']' then
      (ipv6? rest.dropLast).map fun ps => '[' :: (ipv6Text ps ++ [']'])
    else none
  | _ => none

/-- The host of a URL with a known scheme. -/
def domain? (text : List Char) : Option (List Char) :=
  if text.head? = some '[' then bracketed? text
  else do
    let ascii ← Domain.toAscii? (← decode? text)
    if ascii.isEmpty || ascii.any isForbiddenInDomain then none
    else if endsInNumber ascii then (ipv4? ascii).map ipv4Text
    else some ascii

/-- The host of any other URL. -/
def opaque? (text : List Char) : Option (List Char) :=
  if text.head? = some '[' then bracketed? text
  else if text.any isForbiddenInOpaque then none
  else some (encode controlSet text)

end RecordQuery.Url.Host
