import Descent.Text.Quoted

/-!
# Limits of repetition and recursion

How many items a repetition collects, whether an item that consumes nothing ends
it, and how many deferred parsers may be open at once.
-/

namespace Descent

/-- The limits that a repetition or a deferred parser works under. -/
structure Limits where
  maxRepetitions : Nat
  requireProgress : Bool
  maxRecursionDepth : Nat
  deriving DecidableEq, Repr

namespace Limits

/-- The greatest machine word, which stands for "no cap". -/
def unlimited : Nat := 18446744073709551615

/-- No cap on repetitions, the progress guard on, at most 128 open deferred parsers. -/
def standard : Limits := ⟨unlimited, true, 128⟩

/-- Caps the number of items. -/
def withMaxRepetitions (limits : Limits) (count : Nat) : Limits :=
  { limits with maxRepetitions := count }

/-- Caps the number of open deferred parsers. -/
def withMaxRecursionDepth (limits : Limits) (depth : Nat) : Limits :=
  { limits with maxRecursionDepth := depth }

/-- Switches the progress guard off. -/
def allowStalls (limits : Limits) : Limits := { limits with requireProgress := false }

/-- The diagnostic text of limits. -/
def describe (limits : Limits) : String :=
  Text.recordOf "ParseConfig"
    [Text.field "max_repetitions" (toString limits.maxRepetitions),
      Text.field "require_progress" (toString limits.requireProgress),
      Text.field "max_recursion_depth" (toString limits.maxRecursionDepth)]

end Limits

end Descent
