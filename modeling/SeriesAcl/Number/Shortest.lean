import SeriesAcl.Number.Binary64

/-!
# Shortest decimals

The decimal with the fewest digits that reads back as a given double precision magnitude, and of
those the one nearest to it. All arithmetic is on natural numbers over one common denominator.
-/

namespace SeriesAcl.Number

/-- The decimal `digits * 10 ^ exponent`. -/
structure Decimal where
  digits : Nat
  exponent : Int
  deriving DecidableEq, Repr

/-- How many decimal digits a number has; zero has one. -/
def digitCount (n : Nat) : Nat :=
  (Nat.toDigits 10 n).length

/-- The greatest `k` with `10 ^ k ≤ num / den`, for a positive quotient. -/
def decimalOrder (num den : Nat) : Int :=
  if den ≤ num then (digitCount (num / den) : Int) - 1
  else - (digitCount ((den + num - 1) / num - 1) : Int)

/-- A decimal without zeros at the end of its digits. -/
def Decimal.normalized : Nat → Decimal → Decimal
  | 0, d => d
  | fuel + 1, d =>
    if d.digits ≠ 0 ∧ d.digits % 10 = 0 then normalized fuel ⟨d.digits / 10, d.exponent + 1⟩ else d

/-- The exact reals that round to a magnitude, over the denominator `4 * Nat.pow 2 1074`. -/
structure RoundingInterval where
  low : Nat
  value : Nat
  high : Nat
  closed : Bool

/-- The interval of a magnitude: half the gap to either neighbour, ends included for an even
mantissa. Below a power of two the gap is half as wide. -/
def Binary64.interval (x : Binary64) : RoundingInterval :=
  let unit := Nat.pow 2 x.shift
  let below := if x.mantissa = Nat.pow 2 52 ∧ x.shift ≠ 0 then 1 else 2
  { low := (4 * x.mantissa - below) * unit
    value := 4 * x.mantissa * unit
    high := (4 * x.mantissa + 2) * unit
    closed := x.mantissa % 2 == 0 }

/-- The common denominator of the interval ends. -/
def intervalDenominator : Nat := 4 * Nat.pow 2 1074

/-- Whether `point / den` lies in the interval, all numbers over the common denominator. -/
def RoundingInterval.holds (i : RoundingInterval) (point den : Nat) : Bool :=
  if i.closed then i.low * den ≤ point && point ≤ i.high * den
  else i.low * den < point && point < i.high * den

/-- The best decimal on the grid of `count` digits: of the two grid points around the value, those
that read back, the nearer one, the even one of two equally near. -/
def gridDecimal? (i : RoundingInterval) (order : Int) (count : Nat) : Option Decimal :=
  let exponent : Int := order + 1 - count
  -- a grid point `d * 10 ^ exponent` is `d * num / den` over the common denominator
  let num := intervalDenominator * Nat.pow 10 exponent.toNat
  let den := Nat.pow 10 (-exponent).toNat
  let lower := i.value * den / num
  let gapBelow := i.value * den - lower * num
  let gapAbove := (lower + 1) * num - i.value * den
  let lowerHolds := i.holds (lower * num) den
  let upperHolds := i.holds ((lower + 1) * num) den
  let upperNearer := gapAbove < gapBelow || (gapAbove == gapBelow && lower % 2 == 1)
  if lowerHolds && upperHolds then
    some ⟨if upperNearer then lower + 1 else lower, exponent⟩
  else if lowerHolds then some ⟨lower, exponent⟩
  else if upperHolds then some ⟨lower + 1, exponent⟩
  else none

/-- The shortest decimal that reads back as `x`; seventeen digits always do. -/
def Binary64.shortest (x : Binary64) : Decimal :=
  if x.mantissa = 0 then ⟨0, 0⟩
  else
    let i := x.interval
    let order := decimalOrder i.value intervalDenominator
    match (List.range 17).findSome? fun n ↦ gridDecimal? i order (n + 1) with
    | some d => d.normalized 20
    | none => ⟨0, 0⟩

end SeriesAcl.Number
