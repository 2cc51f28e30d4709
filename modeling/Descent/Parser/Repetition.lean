import Descent.Limits
import Descent.Parser.Choice
import Descent.Parser.Sequence

/-!
# Repetitions

A repetition runs its item until the item fails, the cap is reached, or the item
succeeds without moving while the progress guard is on.  In the last case the item's
value is dropped and a warning is written.
-/

namespace Descent.Parser

variable {σ ι ω α δ : Type} [Cursor σ ι ω]

/-- Collects at most `cap` further values; yields them with the cursor after the
last one. -/
def collect (p : Parser σ ω α) (label : String) (requireProgress : Bool) :
    Nat → σ → Run ω (List α × σ)
  | 0, s => return ([], s)
  | cap + 1, s => do
      match ← p.parse s with
      | .failure _ => return ([], s)
      | .success value rest =>
          if requireProgress && Cursor.position rest == Cursor.position s then
            Run.write (.warning (.stalled label p.label (Cursor.position s)))
            return ([], s)
          else
            (fun (values, last) => (value :: values, last)) <$>
              collect p label requireProgress cap rest

/-- Any number of values; never fails. -/
def many (p : Parser σ ω α) (limits : Limits) : Parser σ ω (List α) where
  label := "ZERO OR MANY"
  run label s :=
    (fun (values, last) => .success values last) <$>
      collect p label limits.requireProgress limits.maxRepetitions s

/-- At least one value: the first one is required, whatever the cap, and kept even
if it consumed nothing. -/
def many1 (p : Parser σ ω α) (limits : Limits) : Parser σ ω (List α) where
  label := "ONE OR MANY"
  run label s := do
    match ← p.parse s with
    | .failure failed => return .failure (failed.relabel label)
    | .success value rest =>
        (fun (values, last) => .success (value :: values) last) <$>
          collect p label limits.requireProgress (limits.maxRepetitions - 1) rest

/-- An item with the delimiter that may follow it. -/
def delimited (delimiter : Parser σ ω δ) (p : Parser σ ω α) : Parser σ ω α :=
  labeled p.label (p.keepFirst delimiter.optional)

/-- Any number of items, each optionally followed by a delimiter. -/
def separated (delimiter : Parser σ ω δ) (p : Parser σ ω α) (limits : Limits) :
    Parser σ ω (List α) :=
  (many (delimited delimiter p) limits).withLabel "SEPARATED"

/-- At least one item, each optionally followed by a delimiter. -/
def separated1 (delimiter : Parser σ ω δ) (p : Parser σ ω α) (limits : Limits) :
    Parser σ ω (List α) :=
  (many1 (delimited delimiter p) limits).withLabel "SEPARATED"

end Descent.Parser
