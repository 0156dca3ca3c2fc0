/-!
# UTF-8

Characters to bytes, and bytes back to characters. Reading is total: every maximal run of bytes
that starts a character without completing it, and every byte that can start none, is read as one
missing character.
-/
namespace RecordQuery.Text.Utf8

def encodeChar (c : Char) : List UInt8 :=
  let n := c.toNat
  let tail (unit : Nat) : UInt8 := UInt8.ofNat (0x80 + n / unit % 64)
  if n < 0x80 then [UInt8.ofNat n]
  else if n < 0x800 then [UInt8.ofNat (0xC0 + n / 0x40), tail 1]
  else if n < 0x10000 then [UInt8.ofNat (0xE0 + n / 0x1000), tail 0x40, tail 1]
  else [UInt8.ofNat (0xF0 + n / 0x40000), tail 0x1000, tail 0x40, tail 1]

def encode (text : List Char) : List UInt8 := text.flatMap encodeChar

/-- What a first byte announces: the payload it carries, the number of bytes to follow, and the
range of the first of them. -/
def lead (b : UInt8) : Option (Nat × Nat × Nat × Nat) :=
  let n := b.toNat
  if n < 0x80 then some (n, 0, 0, 0)
  else if n < 0xC2 then none
  else if n < 0xE0 then some (n - 0xC0, 1, 0x80, 0xBF)
  else if n = 0xE0 then some (0, 2, 0xA0, 0xBF)
  else if n = 0xED then some (13, 2, 0x80, 0x9F)
  else if n < 0xF0 then some (n - 0xE0, 2, 0x80, 0xBF)
  else if n = 0xF0 then some (0, 3, 0x90, 0xBF)
  else if n < 0xF4 then some (n - 0xF0, 3, 0x80, 0xBF)
  else if n = 0xF4 then some (4, 3, 0x80, 0x8F)
  else none

/-- A character in the middle of being read: its payload so far, the bytes still missing, and the
range of the next one. -/
structure Pending where
  payload : Nat
  missing : Nat
  low : Nat
  high : Nat

def start (b : UInt8) (next : Option Pending → List (Option Char)) : List (Option Char) :=
  match lead b with
  | none => none :: next none
  | some (n, 0, _, _) => some (Char.ofNat n) :: next none
  | some (n, k + 1, low, high) => next (some ⟨n, k + 1, low, high⟩)

/-- Reads on from a character that is perhaps half read. -/
def decodeFrom : Option Pending → List UInt8 → List (Option Char)
  | none, [] => []
  | some _, [] => [none]
  | none, b :: rest => start b fun p => decodeFrom p rest
  | some p, b :: rest =>
    if p.low ≤ b.toNat ∧ b.toNat ≤ p.high then
      let payload := 64 * p.payload + b.toNat % 64
      if p.missing ≤ 1 then some (Char.ofNat payload) :: decodeFrom none rest
      else decodeFrom (some ⟨payload, p.missing - 1, 0x80, 0xBF⟩) rest
    else none :: start b fun p => decodeFrom p rest

/-- The characters of a byte sequence, with `none` where bytes make no character. -/
def decode (bytes : List UInt8) : List (Option Char) := decodeFrom none bytes

def decode? (bytes : List UInt8) : Option (List Char) := (decode bytes).mapM id

/-- Every missing character is shown as U+FFFD. -/
def decodeLossy (bytes : List UInt8) : List Char :=
  (decode bytes).map (·.getD '\uFFFD')

end RecordQuery.Text.Utf8
