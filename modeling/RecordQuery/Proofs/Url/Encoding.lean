import RecordQuery.Proofs.Text.Utf8
import RecordQuery.Url.Encoding

/-!
# Percent encoding reads back

A text that is encoded with a set in which the percent sign is comes back when it is decoded. What
is encoded twice comes back in one go as long as the second set leaves the escapes alone.
-/
namespace RecordQuery.Url

variable {set inner outer keep : Char → Bool} {c : Char} {text : List Char}

theorem decodeBytes_cons (h : c ≠ '%') (rest : List Char) :
    decodeBytes (c :: rest) = Text.Utf8.encodeChar c ++ decodeBytes rest := by
  rw [decodeBytes]
  rintro _ _ _ rfl
  exact absurd rfl h

theorem digitBelow?_hexDigit : ∀ n < 16, Text.Digits.digitBelow? 16 (hexDigit n) = some n := by
  decide

theorem inRadix?_hexDigits {n : Nat} (h : n < 256) :
    Text.Digits.inRadix? 16 [hexDigit (n / 16), hexDigit (n % 16)] = some n := by
  have hhigh := digitBelow?_hexDigit (n / 16) (by omega)
  have hlow := digitBelow?_hexDigit (n % 16) (by omega)
  simp only [Text.Digits.inRadix?, List.foldlM_cons, List.foldlM_nil, hhigh, hlow]
  have hvalue : 16 * (16 * 0 + n / 16) + n % 16 = n := by omega
  exact congrArg some hvalue

theorem decodeBytes_percentByte (b : UInt8) (rest : List Char) :
    decodeBytes (percentByte b ++ rest) = b :: decodeBytes rest := by
  simp only [percentByte, List.cons_append, List.nil_append, decodeBytes,
    inRadix?_hexDigits b.toNat_lt, UInt8.ofNat_toNat]

theorem decodeBytes_percentChar (c : Char) (rest : List Char) :
    decodeBytes (percentChar c ++ rest) = Text.Utf8.encodeChar c ++ decodeBytes rest := by
  unfold percentChar
  induction Text.Utf8.encodeChar c with
  | nil => rfl
  | cons b bytes ih =>
    rw [List.flatMap_cons, List.append_assoc, decodeBytes_percentByte, ih, List.cons_append]

theorem decodeBytes_encode (h : set '%') (text : List Char) :
    decodeBytes (encode set text) = Text.Utf8.encode text := by
  unfold encode Text.Utf8.encode
  induction text with
  | nil => rfl
  | cons c text ih =>
    rw [List.flatMap_cons, List.flatMap_cons, ← ih]
    split
    · exact decodeBytes_percentChar c _
    · next hc =>
      refine decodeBytes_cons ?_ _
      rintro rfl
      exact hc h

theorem decode?_encode (h : set '%') (text : List Char) :
    decode? (encode set text) = some text := by
  rw [decode?, decodeBytes_encode h, Text.Utf8.decode?_encode]

theorem of_oneOf {signs : String} {p : Char → Bool} (h : signs.toList.all p) (hc : oneOf signs c) :
    p c :=
  List.all_eq_true.mp h c (by simpa [oneOf] using hc)

def escapeChars : String := "%0123456789ABCDEF"

/-- The characters that escapes are made of. -/
def isEscapeChar (c : Char) : Bool := oneOf escapeChars c

theorem isEscapeChar_hexDigit : ∀ n < 16, isEscapeChar (hexDigit n) := by decide

theorem isEscapeChar_of_mem_percentChar {d : Char} (h : d ∈ percentChar c) : isEscapeChar d := by
  obtain ⟨b, -, hd⟩ := List.mem_flatMap.mp h
  have hb := b.toNat_lt
  simp only [percentByte, List.mem_cons, List.not_mem_nil, or_false] at hd
  rcases hd with rfl | rfl | rfl
  · decide
  · exact isEscapeChar_hexDigit _ (by omega)
  · exact isEscapeChar_hexDigit _ (by omega)

theorem encode_cons (c : Char) (text : List Char) :
    encode set (c :: text) = (if set c then percentChar c else [c]) ++ encode set text := by
  simp [encode]

theorem mem_encode (h : c ∈ encode set text) : set c = false ∧ c ∈ text ∨ isEscapeChar c := by
  obtain ⟨d, hd, hc⟩ := List.mem_flatMap.mp h
  split at hc
  · exact .inr (isEscapeChar_of_mem_percentChar hc)
  · next hset =>
    obtain rfl := List.mem_singleton.mp hc
    exact .inl ⟨by simpa using hset, hd⟩

theorem encode_eq_self (h : ∀ c ∈ text, set c = false) : encode set text = text := by
  induction text with
  | nil => rfl
  | cons c text ih =>
    rw [encode_cons, h c (by simp), ih fun d hd => h d (List.mem_cons_of_mem _ hd)]
    rfl

/-- Encoding what is encoded already is encoding with both sets. -/
theorem encode_encode (h : ∀ c, isEscapeChar c → outer c = false) (text : List Char) :
    encode outer (encode inner text) = encode (fun c => inner c || outer c) text := by
  induction text with
  | nil => rfl
  | cons c text ih =>
    rw [encode_cons, encode_append, ih, encode_cons]
    congr 1
    by_cases hc : inner c
    · have hescaped : ∀ d ∈ percentChar c, outer d = false := fun d hd =>
        h d (isEscapeChar_of_mem_percentChar hd)
      simp [hc, encode_eq_self hescaped]
    · simp [hc, encode]

/-- Characters that are not encoded may be dropped before or after encoding. -/
theorem filter_encode (h : ∀ c, isEscapeChar c → keep c) (hset : ∀ c, set c → keep c)
    (text : List Char) : (encode set text).filter keep = encode set (text.filter keep) := by
  induction text with
  | nil => rfl
  | cons c text ih =>
    rw [encode_cons, List.filter_append, ih]
    by_cases hc : set c
    · have hescaped : (percentChar c).filter keep = percentChar c :=
        List.filter_eq_self.mpr fun d hd => h d (isEscapeChar_of_mem_percentChar hd)
      rw [List.filter_cons_of_pos (hset c hc), encode_cons]
      simp [hc, hescaped]
    · by_cases hk : keep c
      · simp [hc, hk, encode_cons]
      · simp [hc, hk]

end RecordQuery.Url
