import Descent.Text.Digit

/-!
# Reading JSON

A strict reader for JSON texts.  Of a number it keeps the value only if the number is
written as a plain natural number, and of a string only the text, if its surrogate
escapes form pairs: settings need no more.
-/

namespace Descent

/-- A JSON text. -/
inductive Json where
  | null
  | bool (value : Bool)
  /-- The value of a number without sign, fraction and exponent. -/
  | number (natural : Option Nat)
  /-- The text of a string, unless it has a lone surrogate. -/
  | string (text : Option String)
  | array (items : List Json)
  | object (members : List (Option String × Json))

namespace Json

/-- The blanks that may stand between the parts of a text. -/
def isBlank (c : Char) : Bool := c == ' ' || c == '\t' || c == '\n' || c == '\r'

/-- Drops blanks. -/
def skipBlanks (cs : List Char) : List Char := cs.dropWhile isBlank

/-- The value of a hexadecimal digit. -/
def hexValue? (c : Char) : Option Nat :=
  if Text.isDigit c then some (Text.digitValue c)
  else if 'a' ≤ c && c ≤ 'f' then some (c.toNat - 87)
  else if 'A' ≤ c && c ≤ 'F' then some (c.toNat - 55)
  else none

/-- The code that a one-letter escape stands for. -/
def escapeCode? : Char → Option Nat
  | '"' => some 0x22
  | '\\' => some 0x5C
  | '/' => some 0x2F
  | 'b' => some 0x08
  | 'f' => some 0x0C
  | 'n' => some 0x0A
  | 'r' => some 0x0D
  | 't' => some 0x09
  | _ => none

/-- Reads a string after its opening quote, as the codes of its characters and
escapes. -/
def readCodes : List Char → Option (List Nat × List Char)
  | [] => none
  | '"' :: rest => some ([], rest)
  | '\\' :: 'u' :: a :: b :: c :: d :: rest => do
      let a ← hexValue? a
      let b ← hexValue? b
      let c ← hexValue? c
      let d ← hexValue? d
      let (codes, rest) ← readCodes rest
      return ((((a * 16 + b) * 16 + c) * 16 + d) :: codes, rest)
  | '\\' :: letter :: rest => do
      let code ← escapeCode? letter
      let (codes, rest) ← readCodes rest
      return (code :: codes, rest)
  | c :: rest =>
      if c.toNat < 0x20 then none
      else do
        let (codes, rest) ← readCodes rest
        return (c.toNat :: codes, rest)

/-- Whether a code is the first half of a surrogate pair. -/
def isHighSurrogate (code : Nat) : Bool := 0xD800 ≤ code && code ≤ 0xDBFF

/-- Whether a code is the second half of a surrogate pair. -/
def isLowSurrogate (code : Nat) : Bool := 0xDC00 ≤ code && code ≤ 0xDFFF

/-- The characters that codes stand for; every surrogate must be part of a pair. -/
def characters? : List Nat → Option (List Char)
  | [] => some []
  | code :: rest =>
      if isLowSurrogate code then none
      else if isHighSurrogate code then
        match rest with
        | low :: rest =>
            if isLowSurrogate low then
              (characters? rest).map
                (Char.ofNat (0x10000 + (code - 0xD800) * 0x400 + (low - 0xDC00)) :: ·)
            else none
        | [] => none
      else (characters? rest).map (Char.ofNat code :: ·)

/-- Reads a string after its opening quote. -/
def readString (cs : List Char) : Option (Option String × List Char) := do
  let (codes, rest) ← readCodes cs
  return ((characters? codes).map String.ofList, rest)

/-- Reads a row of digits, at least one. -/
def readDigits (cs : List Char) : Option (List Char × List Char) :=
  let digits := cs.takeWhile Text.isDigit
  if digits.isEmpty then none else some (digits, cs.dropWhile Text.isDigit)

/-- Reads the fraction of a number if there is one, and says whether there was. -/
def readFraction : List Char → Option (Bool × List Char)
  | '.' :: rest => (readDigits rest).map fun (_, rest) => (true, rest)
  | rest => some (false, rest)

/-- Reads the exponent of a number if there is one, and says whether there was. -/
def readExponent : List Char → Option (Bool × List Char)
  | 'e' :: '+' :: rest | 'e' :: '-' :: rest | 'E' :: '+' :: rest | 'E' :: '-' :: rest
  | 'e' :: rest | 'E' :: rest => (readDigits rest).map fun (_, rest) => (true, rest)
  | rest => some (false, rest)

/-- Reads a number without its sign. -/
def readUnsigned (cs : List Char) : Option (Option Nat × List Char) := do
  let (digits, rest) ← readDigits cs
  if digits.head? == some '0' && digits.length != 1 then none
  else
    let (fraction, rest) ← readFraction rest
    let (exponent, rest) ← readExponent rest
    return (if fraction || exponent then none else some (Text.digitsValue digits), rest)

/-- Reads a number. -/
def readNumber : List Char → Option (Option Nat × List Char)
  | '-' :: rest => (readUnsigned rest).map fun (_, rest) => (none, rest)
  | rest => readUnsigned rest

mutual

/-- Reads a value, nested at most as deep as the given bound. -/
def readValue : Nat → List Char → Option (Json × List Char)
  | 0, _ => none
  | bound + 1, cs =>
      match skipBlanks cs with
      | 'n' :: 'u' :: 'l' :: 'l' :: rest => some (.null, rest)
      | 't' :: 'r' :: 'u' :: 'e' :: rest => some (.bool true, rest)
      | 'f' :: 'a' :: 'l' :: 's' :: 'e' :: rest => some (.bool false, rest)
      | '"' :: rest => (readString rest).map fun (text, rest) => (.string text, rest)
      | '[' :: rest =>
          match skipBlanks rest with
          | ']' :: rest => some (.array [], rest)
          | rest => (readItems bound rest).map fun (items, rest) => (.array items, rest)
      | '\x7b' :: rest =>
          match skipBlanks rest with
          | '\x7d' :: rest => some (.object [], rest)
          | rest =>
              (readMembers bound rest).map fun (members, rest) => (.object members, rest)
      | rest => (readNumber rest).map fun (natural, rest) => (.number natural, rest)

/-- Reads the items of an array up to its end. -/
def readItems : Nat → List Char → Option (List Json × List Char)
  | 0, _ => none
  | bound + 1, cs => do
      let (item, rest) ← readValue bound cs
      match skipBlanks rest with
      | ',' :: rest =>
          let (items, rest) ← readItems bound rest
          return (item :: items, rest)
      | ']' :: rest => return ([item], rest)
      | _ => none

/-- Reads the members of an object up to its end. -/
def readMembers : Nat → List Char → Option (List (Option String × Json) × List Char)
  | 0, _ => none
  | bound + 1, cs =>
      match skipBlanks cs with
      | '"' :: rest => do
          let (key, rest) ← readString rest
          match skipBlanks rest with
          | ':' :: rest =>
              let (value, rest) ← readValue bound rest
              match skipBlanks rest with
              | ',' :: rest =>
                  let (members, rest) ← readMembers bound rest
                  return ((key, value) :: members, rest)
              | '\x7d' :: rest => return ([(key, value)], rest)
              | _ => none
          | _ => none
      | _ => none

end

/-- Reads a whole text.  Every second step of the reader consumes a character, so
twice the length bounds its steps. -/
def read? (text : String) : Option Json :=
  match readValue (2 * text.length + 2) text.toList with
  | some (value, rest) => if (skipBlanks rest).isEmpty then some value else none
  | none => none

/-- The value of the member with a key, if there is exactly one. -/
def member? (members : List (Option String × Json)) (key : String) : Option Json :=
  match members.filter fun member => member.1 == some key with
  | [member] => some member.2
  | _ => none

/-- A truth value. -/
def bool? : Json → Option Bool
  | .bool value => some value
  | _ => none

/-- A natural number up to a bound. -/
def natural? (bound : Nat) : Json → Option Nat
  | .number (some n) => if n ≤ bound then some n else none
  | _ => none

end Json

end Descent
