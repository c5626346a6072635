/-!
# Unsigned numbers in text

Reading a decimal number that has to fit 64 bits, with the reason when it cannot be read. A leading
plus sign is allowed, a minus sign and blanks are not. The first fault from the left is reported.
-/

namespace SeriesAcl.Text

/-- Why a text is not an unsigned number. -/
inductive UnsignedFault where
  | empty
  | invalidDigit
  | tooLarge
  deriving DecidableEq, Repr

/-- The reason in words. -/
def UnsignedFault.message : UnsignedFault → String
  | .empty => "cannot parse integer from empty string"
  | .invalidDigit => "invalid digit found in string"
  | .tooLarge => "number too large to fit in target type"

/-- The largest number of 64 bits. -/
def maxUnsigned : Nat := Nat.pow 2 64 - 1

/-- The value of a decimal digit. -/
def digit? (c : Char) : Option Nat :=
  if '0' ≤ c ∧ c ≤ '9' then some (c.toNat - 48) else none

/-- Digits read on top of the number `acc` read so far. -/
def readDigits (acc : Nat) : List Char → Except UnsignedFault Nat
  | [] => .ok acc
  | c :: cs =>
    match digit? c with
    | none => .error .invalidDigit
    | some d =>
      if acc * 10 + d ≤ maxUnsigned then readDigits (acc * 10 + d) cs else .error .tooLarge

/-- The unsigned number of 64 bits that a text spells. -/
def readUnsigned (s : String) : Except UnsignedFault Nat :=
  match s.toList with
  | [] => .error .empty
  | ['+'] => .error .invalidDigit
  | '+' :: digits => readDigits 0 digits
  | digits => readDigits 0 digits

end SeriesAcl.Text
