import SeriesAcl.Number.Shortest

/-!
# Numbers of JSON documents

A number is an integer of 64 bits, signed or unsigned, or a double precision real. A lexeme without
fraction and exponent that fits 64 bits is an integer; every other lexeme, minus zero included, is a
real. Reals are printed with the fewest digits that read back and always show a fraction or an
exponent, so the two kinds stay apart in print.
-/

namespace SeriesAcl.Json

open SeriesAcl.Number

/-- The value of a number. -/
inductive Number where
  | integer (value : Int)
  | real (negative : Bool) (magnitude : Binary64)
  deriving DecidableEq, Repr

/-- The parts of a number as written: the sign, the digits before the point, the digits behind it,
and the sign and digits of the exponent. -/
structure Lexeme where
  negative : Bool
  whole : List Nat
  fraction : Option (List Nat)
  exponent : Option (Bool × List Nat)
  deriving Repr

namespace Number

/-- Two to the power of 63: integers of 64 bits with a sign lie below it. -/
def signedBound : Int := 9223372036854775808

/-- The largest significand that is collected exactly. -/
def maxSignificand : Nat := Nat.pow 2 64 - 1

/-- The largest exponent that is taken at its value. -/
def maxExponent : Nat := Nat.pow 2 31 - 1

/-- Digits added to a significand as long as it fits 64 bits, with the digits left over. -/
def collect (significand : Nat) : List Nat → Nat × List Nat
  | [] => (significand, [])
  | d :: ds =>
    if significand * 10 + d ≤ maxSignificand then collect (significand * 10 + d) ds
    else (significand, d :: ds)

/-- The number that decimal digits spell. -/
def ofDigits (ds : List Nat) : Nat :=
  ds.foldl (fun n d ↦ n * 10 + d) 0

/-- The real `significand * 10 ^ exponent`: the significand is rounded first, then the product or
quotient with the power of ten. -/
def scale? (significand : Nat) (exponent : Int) : Option Binary64 := do
  let x ← Binary64.ofNat? significand
  if 0 ≤ exponent then x.mulPowerOfTen? exponent.toNat else x.divPowerOfTen? (-exponent).toNat

/-- The integer that a lexeme without fraction and exponent denotes, when it fits 64 bits and is not
minus zero. -/
def integer? (negative : Bool) (significand : Nat) : Option Int :=
  if !negative then some significand
  else if significand ≠ 0 ∧ (significand : Int) ≤ signedBound then some (-significand)
  else none

/-- The number that a lexeme denotes, or none when its magnitude is beyond the reals. Digits of the
whole part past 64 bits count only by their place, digits of the fraction past 64 bits not at
all. -/
def ofLexeme? (l : Lexeme) : Option Number :=
  let (significand, leftover) := collect 0 l.whole
  match l.fraction, l.exponent, leftover, integer? l.negative significand with
  | none, none, [], some n => some (.integer n)
  | _, _, _, _ =>
    let places := l.fraction.getD []
    let (significand, dropped) := collect significand places
    let base : Int := leftover.length - (places.length - dropped.length)
    match l.exponent with
    | none => (scale? significand base).map (.real l.negative)
    | some (negativeExponent, ds) =>
      let e := ofDigits ds
      if maxExponent < e then
        if significand ≠ 0 ∧ !negativeExponent then none else some (.real l.negative .zero)
      else
        (scale? significand (if negativeExponent then base - e else base + e)).map
          (.real l.negative)

/-- The value of a number that is an integer within the signed 64-bit range. -/
def asSigned? : Number → Option Int
  | .integer n => if -signedBound ≤ n ∧ n < signedBound then some n else none
  | .real _ _ => none

/-- The digits of a decimal in positional or exponent notation: positional as long as the point
falls at most sixteen digits behind the first digit and at most five zeros before it. An exponent
always has its sign. -/
def decimalText (d : Decimal) : List Char :=
  let digits := Nat.toDigits 10 d.digits
  let point : Int := digits.length + d.exponent
  if 0 ≤ d.exponent ∧ point ≤ 16 then
    digits ++ List.replicate d.exponent.toNat '0' ++ ['.', '0']
  else if 0 < point ∧ point ≤ 16 then
    digits.take point.toNat ++ '.' :: digits.drop point.toNat
  else if -5 < point ∧ point ≤ 0 then
    '0' :: '.' :: (List.replicate (-point).toNat '0' ++ digits)
  else
    let order := point - 1
    let exponent := (if order < 0 then '-' else '+') :: Nat.toDigits 10 order.natAbs
    match digits with
    | [] => []
    | [first] => first :: 'e' :: exponent
    | first :: rest => first :: '.' :: (rest ++ 'e' :: exponent)

/-- The text of a number. -/
def text : Number → List Char
  | .integer n => (if n < 0 then ['-'] else []) ++ Nat.toDigits 10 n.natAbs
  | .real negative magnitude =>
    (if negative then ['-'] else []) ++ decimalText magnitude.shortest

end Number

end SeriesAcl.Json
