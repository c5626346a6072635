/-!
# Base 64

Bytes as text of 64 letters. Three bytes make four letters; at the end an equals sign stands for a
letter that no byte reaches.
-/

namespace SeriesAcl.Base64

/-- The letter for a number below 64. -/
def letter (n : Nat) : Char :=
  if n < 26 then Char.ofNat (65 + n)
  else if n < 52 then Char.ofNat (71 + n)
  else if n < 62 then Char.ofNat (n - 4)
  else if n = 62 then '+'
  else '/'

/-- The letter at the place `i`, from the left, of the four letters of a group of 24 bits. -/
def letterAt (group i : Nat) : Char :=
  letter (group / Nat.pow 64 (3 - i) % 64)

/-- Bytes as letters. -/
def encode : List UInt8 → List Char
  | [] => []
  | [a] =>
    let group := a.toNat * 65536
    [letterAt group 0, letterAt group 1, '=', '=']
  | [a, b] =>
    let group := a.toNat * 65536 + b.toNat * 256
    [letterAt group 0, letterAt group 1, letterAt group 2, '=']
  | a :: b :: c :: rest =>
    let group := a.toNat * 65536 + b.toNat * 256 + c.toNat
    letterAt group 0 :: letterAt group 1 :: letterAt group 2 :: letterAt group 3 :: encode rest

/-- The bytes of a text as letters. -/
def ofText (s : String) : String :=
  String.ofList (encode (s.toList.flatMap String.utf8EncodeChar))

end SeriesAcl.Base64
