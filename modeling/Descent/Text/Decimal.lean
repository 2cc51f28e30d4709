import Descent.Text.Digit

/-!
# Reading decimal numbers

A decimal number is an optional sign, digits, and optionally a point with further
digits.  Its value is rounded to the nearest number of the binary64 format, with
ties to the even neighbour, in exact integer arithmetic; a binary64 number is kept
as its bits.
-/

namespace Descent.Text

/-- A decimal number `± digits / 10 ^ places`. -/
structure Decimal where
  negative : Bool
  digits : Nat
  places : Nat
  deriving DecidableEq, Repr

namespace Decimal

/-- Reads an unsigned decimal number: digits, then optionally a point and digits. -/
def readUnsigned? (negative : Bool) (cs : List Char) : Option Decimal :=
  let whole := cs.takeWhile isDigit
  if whole.isEmpty then
    none
  else
    match cs.dropWhile isDigit with
    | [] => some ⟨negative, digitsValue whole, 0⟩
    | '.' :: fraction =>
        if fraction.all isDigit then
          some ⟨negative, digitsValue (whole ++ fraction), fraction.length⟩
        else
          none
    | _ => none

/-- Reads a whole text as a decimal number. -/
def read? : List Char → Option Decimal
  | '+' :: cs => readUnsigned? false cs
  | '-' :: cs => readUnsigned? true cs
  | cs => readUnsigned? false cs

/-- The integer nearest to a quotient; of two equally near ones the even one. -/
def roundHalfEven (numerator denominator : Nat) : Nat :=
  let quotient := numerator / denominator
  let twice := 2 * (numerator % denominator)
  if twice < denominator ∨ (twice = denominator ∧ quotient % 2 = 0) then quotient
  else quotient + 1

/-- The least exponent of the binary64 format: its numbers are multiples of
`2 ^ leastExponent`. -/
def leastExponent : Int := -1074

/-- The bits of positive infinity. -/
def infinityBits : Nat := 0x7FF0000000000000

/-- `numerator / denominator` in units of `2 ^ exponent`, as a quotient. -/
def inUnits (exponent : Int) (numerator denominator : Nat) : Nat × Nat :=
  (numerator * Nat.pow 2 (-exponent).toNat, denominator * Nat.pow 2 exponent.toNat)

/-- The exponent of the last of the 53 significant binary digits of a positive
quotient, or the least exponent of the format if that is greater. -/
def lastExponent (numerator denominator : Nat) : Int :=
  let estimate : Int := (numerator.log2 : Int) - denominator.log2 - 53
  let (scaled, unit) := inUnits estimate numerator denominator
  let exact := if scaled / unit < Nat.pow 2 53 then estimate else estimate + 1
  max exact leastExponent

/-- The bits of the binary64 number nearest to a quotient.  The stored exponent
starts at one for numbers with all 53 digits, so adding the digits with their
leading one to `exponent - leastExponent` gives the bits of both the full and the
shortened numbers, and a carry out of the digits raises the exponent by itself. -/
def magnitudeBits (numerator denominator : Nat) : Nat :=
  if numerator = 0 then
    0
  else
    let exponent := lastExponent numerator denominator
    let (scaled, unit) := inUnits exponent numerator denominator
    let stored := (exponent - leastExponent).toNat * Nat.pow 2 52
    min (stored + roundHalfEven scaled unit) infinityBits

/-- The bits of the binary64 number nearest to a decimal number; a negative zero
keeps its sign. -/
def toBits (d : Decimal) : UInt64 :=
  let sign := if d.negative then Nat.pow 2 63 else 0
  UInt64.ofNat (sign + magnitudeBits d.digits (Nat.pow 10 d.places))

end Decimal

end Descent.Text
