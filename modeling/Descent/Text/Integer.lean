import Descent.Text.Digit

/-!
# Reading integers of a bounded range

An optional sign is followed by decimal digits.  The digits are read from left to
right and the first problem decides: a character that is no digit, or a prefix
whose value already leaves the range.  A minus sign belongs to ranges that reach
below zero only.
-/

namespace Descent.Text

/-- Integers between two bounds. -/
structure IntegerRange where
  least : Int
  greatest : Int

namespace IntegerRange

/-- Unsigned integers of eight bits. -/
def byte : IntegerRange := ⟨0, 255⟩

/-- Signed integers of sixty-four bits. -/
def word : IntegerRange := ⟨-9223372036854775808, 9223372036854775807⟩

end IntegerRange

/-- Why a text is not an integer of the range. -/
inductive IntegerError where
  | empty
  | invalidDigit
  | aboveRange
  | belowRange
  deriving DecidableEq, Repr

/-- The text reported for the error. -/
def IntegerError.message : IntegerError → String
  | .empty => "cannot parse integer from empty string"
  | .invalidDigit => "invalid digit found in string"
  | .aboveRange => "number too large to fit in target type"
  | .belowRange => "number too small to fit in target type"

/-- Continues a number with further digits; `negative` numbers grow downwards. -/
def readDigits (range : IntegerRange) (negative : Bool) :
    Int → List Char → Except IntegerError Int
  | value, [] => .ok value
  | value, c :: rest =>
      if isDigit c then
        let next :=
          if negative then value * 10 - digitValue c else value * 10 + digitValue c
        if range.greatest < next then .error .aboveRange
        else if next < range.least then .error .belowRange
        else readDigits range negative next rest
      else
        .error .invalidDigit

/-- Reads a whole text as an integer of the range. -/
def readInteger (range : IntegerRange) : List Char → Except IntegerError Int
  | [] => .error .empty
  | ['+'] | ['-'] => .error .invalidDigit
  | '+' :: digits => readDigits range false 0 digits
  | '-' :: digits =>
      if range.least < 0 then readDigits range true 0 digits
      else .error .invalidDigit
  | digits => readDigits range false 0 digits

end Descent.Text
