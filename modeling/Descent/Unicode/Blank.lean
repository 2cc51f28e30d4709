import Descent.Unicode.CodeSet

/-!
# Blank characters

The property White_Space: the ASCII blanks, the next-line character, the
no-break space and the separators.
-/

namespace Descent.Unicode

/-- The code points with the property White_Space. -/
def blankRuns : CodeSet where
  runs := [
    (0x0009, 0x000D), (0x0020, 0x0020), (0x0085, 0x0085), (0x00A0, 0x00A0),
    (0x1680, 0x1680), (0x2000, 0x200A), (0x2028, 0x2029), (0x202F, 0x202F),
    (0x205F, 0x205F), (0x3000, 0x3000)]
  rising := by decide +kernel

/-- Whether a character has the property White_Space. -/
def isBlank (c : Char) : Bool := blankRuns.contains c.toNat

end Descent.Unicode
