import RecordQuery.Text.Digits
import RecordQuery.Text.Utf8

/-!
# Percent encoding

A character is encoded as its UTF-8 bytes, each written as a percent sign and two digits. Which
characters are encoded depends on the part of the URL. Decoding undoes every complete escape and
leaves all other characters alone.
-/
namespace RecordQuery.Url

def hexDigit (n : Nat) : Char := (Nat.digitChar n).toUpper

def percentByte (b : UInt8) : List Char :=
  ['%', hexDigit (b.toNat / 16), hexDigit (b.toNat % 16)]

def percentChar (c : Char) : List Char := (Text.Utf8.encodeChar c).flatMap percentByte

def encode (set : Char → Bool) (text : List Char) : List Char :=
  text.flatMap fun c => if set c then percentChar c else [c]

/-- Control characters, and all characters outside ASCII. -/
def controlSet (c : Char) : Bool := c.toNat < 0x20 || 0x7F ≤ c.toNat

def oneOf (chars : String) (c : Char) : Bool := chars.toList.contains c

def fragmentSet (c : Char) : Bool := controlSet c || oneOf " \"<>`" c

def pathSet (c : Char) : Bool := fragmentSet c || oneOf "#?\x7b\x7d" c

def userinfoSet (c : Char) : Bool := pathSet c || oneOf "/:;=@[\\]^|" c

/-- In a special URL the single quote is encoded, too. -/
def querySet (special : Bool) (c : Char) : Bool :=
  controlSet c || oneOf " \"#<>" c || (special && c = '\'')

/-- The bytes of a text in which escapes stand for bytes. -/
def decodeBytes : List Char → List UInt8
  | [] => []
  | '%' :: a :: b :: rest =>
    match Text.Digits.inRadix? 16 [a, b] with
    | some n => UInt8.ofNat n :: decodeBytes rest
    | none => UInt8.ofNat '%'.toNat :: decodeBytes (a :: b :: rest)
  | c :: rest => Text.Utf8.encodeChar c ++ decodeBytes rest

def decode? (text : List Char) : Option (List Char) := Text.Utf8.decode? (decodeBytes text)

theorem encode_append (set : Char → Bool) (s t : List Char) :
    encode set (s ++ t) = encode set s ++ encode set t := by
  simp [encode]

end RecordQuery.Url
