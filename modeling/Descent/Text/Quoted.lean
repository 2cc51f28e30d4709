import Descent.Unicode.Extending
import Descent.Unicode.Hidden
import Descent.Unicode.Ignorable

/-!
# Quoted text

Strings and characters as they stand in labels and in diagnostic texts: between
quotes, with escapes for the quote itself, for the backslash and the common
controls, and with code points in hexadecimal for characters that have no printed
form of their own, are drawn as nothing or would merge with their neighbour.
-/

namespace Descent.Text

open Descent.Unicode

/-- A code point in hexadecimal, between braces after a backslash and `u`. -/
def codeEscape (c : Char) : List Char :=
  ['\\', 'u', '\x7b'] ++ Nat.toDigits 16 c.toNat ++ ['\x7d']

/-- One character of a text enclosed in `mark`. -/
def escape (mark c : Char) : List Char :=
  if c = '\x00' then ['\\', '0']
  else if c = '\t' then ['\\', 't']
  else if c = '\n' then ['\\', 'n']
  else if c = '\r' then ['\\', 'r']
  else if c = '\\' || c = mark then ['\\', c]
  else if isExtending c || isIgnorable c || isHidden c then codeEscape c
  else [c]

/-- A string between double quotes; single quotes inside stay as they are. -/
def quoted (s : String) : String :=
  String.ofList (['"'] ++ s.toList.flatMap (escape '"') ++ ['"'])

/-- A character between single quotes; a double quote inside stays as it is. -/
def quotedChar (c : Char) : String :=
  String.ofList (['\x27'] ++ escape '\x27' c ++ ['\x27'])

/-- Items separated by a comma and a blank. -/
def commaSeparated (items : List String) : String := String.intercalate ", " items

/-- A sequence of texts in square brackets. -/
def bracketed (items : List String) : String := "[" ++ commaSeparated items ++ "]"

/-- A sequence of texts in round brackets. -/
def parenthesized (items : List String) : String := "(" ++ commaSeparated items ++ ")"

/-- A record: its name, then its parts in curly brackets. -/
def recordOf (name : String) (parts : List String) : String :=
  name ++ " \x7b " ++ commaSeparated parts ++ " \x7d"

/-- A field of a record. -/
def field (name text : String) : String := name ++ ": " ++ text

/-- The two dots that end a record which shows only some of its fields. -/
def ellipsis : String := ".."

end Descent.Text
