import Descent.Unicode.CodeSet

/-!
# Ignorable characters

The property Default_Ignorable_Code_Point: joiners, variation selectors, fillers
and tags, which are drawn as nothing at all where they are not understood.  The
fillers of the Hangul script are letters by category and still belong here.
-/

namespace Descent.Unicode

/-- The code points with the property Default_Ignorable_Code_Point. -/
def ignorableRuns : CodeSet where
  runs := [
    (0x00AD, 0x00AD), (0x034F, 0x034F), (0x061C, 0x061C), (0x115F, 0x1160),
    (0x17B4, 0x17B5), (0x180B, 0x180F), (0x200B, 0x200F), (0x202A, 0x202E),
    (0x2060, 0x206F), (0x3164, 0x3164), (0xFE00, 0xFE0F), (0xFEFF, 0xFEFF),
    (0xFFA0, 0xFFA0), (0xFFF0, 0xFFF8), (0x1BCA0, 0x1BCA3), (0x1D173, 0x1D17A),
    (0xE0000, 0xE0FFF)]
  rising := by decide +kernel

/-- Whether a character has the property Default_Ignorable_Code_Point. -/
def isIgnorable (c : Char) : Bool := ignorableRuns.contains c.toNat

end Descent.Unicode
