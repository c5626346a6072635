/-!
# Double precision magnitudes

The finite magnitudes of double precision floating point numbers, as exact natural numbers. A
magnitude is `mantissa * 2 ^ shift / 2 ^ 1074` with a mantissa below `2 ^ 53`. Every operation is
exact arithmetic followed by one rounding, to the nearest magnitude and to the even mantissa of two
that are equally near.
-/

namespace SeriesAcl.Number

/-- A finite magnitude; its value is `mantissa * 2 ^ shift / 2 ^ 1074`. -/
structure Binary64 where
  mantissa : Nat
  shift : Nat
  deriving DecidableEq, Repr

/-- A quotient rounded to the nearest natural number, a half to the even one. -/
def roundHalfEven (num den : Nat) : Nat :=
  let q := num / den
  let r := num % den
  if den < 2 * r ∨ (2 * r = den ∧ q % 2 = 1) then q + 1 else q

namespace Binary64

/-- The magnitude zero. -/
def zero : Binary64 := ⟨0, 0⟩

/-- The numerator of the value over the denominator `2 ^ 1074`. -/
def scaled (x : Binary64) : Nat :=
  x.mantissa * Nat.pow 2 x.shift

/-- The magnitude nearest to `num / den`, or none when it lies beyond the largest one. -/
def ofRatio (num den : Nat) : Option Binary64 :=
  let whole := num * Nat.pow 2 1074 / den
  let shift := whole.log2 - 52
  let mantissa := roundHalfEven (num * Nat.pow 2 1074) (den * Nat.pow 2 shift)
  let rounded : Binary64 :=
    if mantissa = Nat.pow 2 53 then ⟨Nat.pow 2 52, shift + 1⟩ else ⟨mantissa, shift⟩
  if rounded.shift ≤ 2045 then some rounded else none

/-- The magnitude nearest to a natural number. -/
def ofNat? (n : Nat) : Option Binary64 :=
  ofRatio n 1

/-- The rounded product. -/
def mul? (x y : Binary64) : Option Binary64 :=
  ofRatio (x.scaled * y.scaled) (Nat.pow 2 2148)

/-- The rounded quotient. -/
def div? (x y : Binary64) : Option Binary64 :=
  ofRatio x.scaled y.scaled

/-- The magnitude nearest to `10 ^ k`. -/
def powerOfTen? (k : Nat) : Option Binary64 :=
  ofRatio (Nat.pow 10 k) 1

/-- The quotient of `x` by `10 ^ k`, in steps of at most `10 ^ 308`, each of them rounded. -/
def divPowerOfTen? (x : Binary64) (k : Nat) : Option Binary64 :=
  if k ≤ 308 then do x.div? (← powerOfTen? k)
  else if x.mantissa = 0 then some x
  else do divPowerOfTen? (← x.div? (← powerOfTen? 308)) (k - 308)
termination_by k

/-- The product of `x` and `10 ^ k`, rounded; none when the product is too large. -/
def mulPowerOfTen? (x : Binary64) (k : Nat) : Option Binary64 :=
  if k ≤ 308 then do x.mul? (← powerOfTen? k)
  else if x.mantissa = 0 then some x
  else none

end Binary64

end SeriesAcl.Number
