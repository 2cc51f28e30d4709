import Descent.Parser.Repetition
import Descent.Parser.Transform
import Descent.Text.Decimal
import Descent.Unicode.Alphabetic
import Descent.Unicode.Blank
import Descent.Unicode.Numeric

/-!
# Symbols and numbers

Parsers for text, judged character by character, and the decimal number composed
of them.
-/

namespace Descent

/-- Classes of characters. -/
inductive SymbolClass where
  | blank
  | word
  | digit
  | lower
  | upper
  | hexadecimal
  | anything
  | nothing
  | oneOf (characters : List Char)
  | noneOf (characters : List Char)

/-- Whether a class has a character.  Letter case and digits are those of ASCII;
word characters are alphabetic or numeric ones and the underscore. -/
def SymbolClass.accepts : SymbolClass → Char → Bool
  | .blank, c => Unicode.isBlank c
  | .word, c => Unicode.isAlphabetic c || Unicode.isNumeric c || c == '_'
  | .digit, c => Text.isDigit c
  | .lower, c => 'a' ≤ c && c ≤ 'z'
  | .upper, c => 'A' ≤ c && c ≤ 'Z'
  | .hexadecimal, c =>
      Text.isDigit c || ('a' ≤ c && c ≤ 'f') || ('A' ≤ c && c ≤ 'F')
  | .anything, _ => true
  | .nothing, _ => false
  | .oneOf characters, c => characters.contains c
  | .noneOf characters, c => !characters.contains c

namespace Parser

variable {σ ω : Type} [SymbolCursor σ ω]

/-- One symbol of a class. -/
def symbol (label : String) (accepted : SymbolClass) : Parser σ ω String :=
  create label fun s => do
    match ← Run.ask (SymbolCursor.takeSymbol? s accepted.accepts) with
    | some (taken, rest) => return .success taken rest
    | none => return .fail "" "unexpected symbol" s

/-- One blank. -/
def space : Parser σ ω String := symbol "SPACE" .blank

/-- One word character. -/
def letter : Parser σ ω String := symbol "LETTER" .word

/-- One digit. -/
def digit : Parser σ ω String := symbol "DIGIT" .digit

/-- The parts of a number as they were read: sign, digits, point, digits. -/
abbrev NumberParts := ((Option String × List String) × Option String) × List String

/-- The parts of a number put together again. -/
def numberText (parts : NumberParts) : String :=
  let (((sign, whole), point), fraction) := parts
  sign.getD "" ++ String.join whole ++ point.getD "" ++ String.join fraction

/-- The reading of a text as a number; its only error is that it is none. -/
def readNumber (parts : NumberParts) : Except Unit UInt64 :=
  match Text.Decimal.read? (numberText parts).toList with
  | some number => .ok number.toBits
  | none => .error ()

/-- The parts of a number in sequence. -/
def numberParts : Parser σ ω NumberParts :=
  let sign := (firstOf [exact "+", exact "-"]).optional
  let point := (exact ".").optional
  ((sign.both (digit.many1 .standard)).both point).both (digit.many .standard)

/-- A decimal number: an optional sign, digits, and optionally a point and further
digits. -/
def number : Parser σ ω UInt64 :=
  labeled "NUMBER" (numberParts.tryMap readNumber fun _ => "invalid float literal")

end Parser

end Descent
