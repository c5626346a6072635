/-!
# Percent encoding

Text as it stands in addresses and forms: a character that may stand there goes as it is, of any
other every byte of its UTF-8 form is written as a percent sign and two digits. Which characters may
stand is a parameter, for it differs from one part of an address to another.
-/

namespace SeriesAcl.Percent

/-- A digit of a number to the base 16, in upper case. -/
def hexDigit (n : Nat) : Char :=
  if n < 10 then Char.ofNat (48 + n) else Char.ofNat (55 + n)

/-- The value of a digit to the base 16, in either case. -/
def hexValue? (c : Char) : Option Nat :=
  if '0' ≤ c ∧ c ≤ '9' then some (c.toNat - 48)
  else if 'A' ≤ c ∧ c ≤ 'F' then some (c.toNat - 55)
  else if 'a' ≤ c ∧ c ≤ 'f' then some (c.toNat - 87)
  else none

/-- A byte in its written form. -/
def escape (b : UInt8) : List Char :=
  ['%', hexDigit (b.toNat / 16), hexDigit (b.toNat % 16)]

/-- A character, escaped unless it may stand. -/
def encodeChar (keeps : Char → Bool) (c : Char) : List Char :=
  if keeps c then [c] else (String.utf8EncodeChar c).flatMap escape

/-- A text with the characters escaped that may not stand. -/
def encode (keeps : Char → Bool) (s : List Char) : List Char :=
  s.flatMap (encodeChar keeps)

/-- The bytes of a text: those that it spells out, and those of its other characters. A percent sign
without two digits behind it stands for itself. -/
def bytes : List Char → List UInt8
  | [] => []
  | '%' :: h :: l :: rest =>
    match hexValue? h, hexValue? l with
    | some high, some low => UInt8.ofNat (high * 16 + low) :: bytes rest
    | _, _ => 37 :: bytes (h :: l :: rest)
  | c :: rest => String.utf8EncodeChar c ++ bytes rest

/-- The text that a text spells out, unless its bytes are no text. -/
def decode? (s : List Char) : Option String :=
  String.fromUTF8? (bytes s).toByteArray

/-- A digit has the value that it was written for. -/
theorem hexValue?_hexDigit {n : Nat} (h : n < 16) : hexValue? (hexDigit n) = some n := by
  have : ∀ m : Fin 16, hexValue? (hexDigit m.val) = some m.val := by decide
  exact this ⟨n, h⟩

/-- An escaped byte is read back as that byte. -/
theorem bytes_escape_append (b : UInt8) (s : List Char) : bytes (escape b ++ s) = b :: bytes s := by
  have hb : b.toNat < 256 := b.toNat_lt
  have high : hexValue? (hexDigit (b.toNat / 16)) = some (b.toNat / 16) :=
    hexValue?_hexDigit (by omega)
  have low : hexValue? (hexDigit (b.toNat % 16)) = some (b.toNat % 16) :=
    hexValue?_hexDigit (by omega)
  have value : UInt8.ofNat (b.toNat / 16 * 16 + b.toNat % 16) = b := by
    rw [show b.toNat / 16 * 16 + b.toNat % 16 = b.toNat by omega]
    exact UInt8.ofNat_toNat
  simp only [escape, List.cons_append, List.nil_append, bytes, high, low, value]

/-- Escaped bytes are read back as those bytes. -/
theorem bytes_flatMap_escape_append (bs : List UInt8) (s : List Char) :
    bytes (bs.flatMap escape ++ s) = bs ++ bytes s := by
  induction bs with
  | nil => rfl
  | cons b bs ih =>
    rw [List.flatMap_cons, List.append_assoc, bytes_escape_append, ih, List.cons_append]

/-- A character other than the percent sign stands for its own bytes. -/
theorem bytes_cons_of_ne {c : Char} (h : c ≠ '%') (s : List Char) :
    bytes (c :: s) = String.utf8EncodeChar c ++ bytes s := by
  rw [bytes.eq_def]
  split
  · next heq => cases heq
  · next heq =>
    simp only [List.cons.injEq] at heq
    exact absurd heq.1 h
  · next heq =>
    simp only [List.cons.injEq] at heq
    rw [heq.1, heq.2]

/-- Reading back what was encoded gives the bytes of the text, when a percent sign is escaped. -/
theorem bytes_encode {keeps : Char → Bool} (h : keeps '%' = false) (s : List Char) :
    bytes (encode keeps s) = s.flatMap String.utf8EncodeChar := by
  induction s with
  | nil => rfl
  | cons c s ih =>
    rw [encode, List.flatMap_cons, List.flatMap_cons, encodeChar]
    by_cases hc : keeps c = true
    · have hne : c ≠ '%' := fun heq ↦ by rw [heq, h] at hc; cases hc
      rw [if_pos hc, List.cons_append, List.nil_append, bytes_cons_of_ne hne]
      exact congrArg _ ih
    · rw [if_neg hc, bytes_flatMap_escape_append]
      exact congrArg _ ih

/-- The bytes of a text's characters are the bytes of the text. -/
theorem fromUTF8?_flatMap (s : String) :
    String.fromUTF8? (s.toList.flatMap String.utf8EncodeChar).toByteArray = some s := by
  have hbytes : (s.toList.flatMap String.utf8EncodeChar).toByteArray = s.toByteArray := by
    have := String.toByteArray_ofList (l := s.toList)
    rw [String.ofList_toList] at this
    exact this.symm
  rw [hbytes, String.fromUTF8?, dif_pos s.isValidUTF8]
  rfl

/-- An encoded text spells out the text, when a percent sign is escaped. -/
theorem decode?_encode {keeps : Char → Bool} (h : keeps '%' = false) (s : String) :
    decode? (encode keeps s.toList) = some s := by
  rw [decode?, bytes_encode h, fromUTF8?_flatMap]

/-- Whether a character is a letter or digit of ASCII. -/
def isAsciiAlphanumeric (c : Char) : Bool :=
  ('0' ≤ c && c ≤ '9') || ('A' ≤ c && c ≤ 'Z') || ('a' ≤ c && c ≤ 'z')

/-- The characters that may stand in one segment of a path that the console forms. -/
def segmentKeeps (c : Char) : Bool :=
  isAsciiAlphanumeric c || c == '-' || c == '.' || c == '_' || c == '~'

/-- A text as one segment of a path. -/
def segment (s : String) : String :=
  String.ofList (encode segmentKeeps s.toList)

/-- A segment spells out the text that it was made from. -/
theorem decode?_segment (s : String) : decode? (segment s).toList = some s := by
  rw [segment, String.toList_ofList, decode?_encode (by decide)]

/-- The characters that may stand in a form. -/
def formKeeps (c : Char) : Bool :=
  isAsciiAlphanumeric c || c == '*' || c == '-' || c == '.' || c == '_'

/-- A character in a form, where a plus sign stands for a space. -/
def formChar (c : Char) : List Char :=
  if c = ' ' then ['+'] else encodeChar formKeeps c

/-- A text in a form. -/
def formText (s : String) : String :=
  String.ofList (s.toList.flatMap formChar)

/-- Names and values as a form. -/
def form (fields : List (String × String)) : String :=
  "&".intercalate (fields.map fun f ↦ formText f.1 ++ "=" ++ formText f.2)

end SeriesAcl.Percent
