import Descent.Parser.Basic

/-!
# Choices

An ordered choice runs its alternatives on the same cursor until one succeeds.
Optional parsers and attempts go back to where they started when they fail.
-/

namespace Descent.Parser

variable {σ ι ω α : Type}

/-- Runs parsers on one cursor, in order, up to the first success. -/
def firstSuccess : List (Parser σ ω α) → σ → Run ω (Option (α × σ))
  | [], _ => return none
  | p :: later, s => do
      match ← p.parse s with
      | .success value rest => return some (value, rest)
      | .failure _ => firstSuccess later s

/-- The label of an ordered choice. -/
def choiceLabel (labels : List String) : String :=
  if labels.isEmpty then "ANY" else String.intercalate " OR " labels

/-- The first alternative that succeeds. -/
def firstOf [Cursor σ ι ω] (alternatives : List (Parser σ ω α)) : Parser σ ω α :=
  guarded
    { label := choiceLabel (alternatives.map Parser.label)
      run := fun label s => do
        match ← firstSuccess alternatives s with
        | some (value, rest) => return .success value rest
        | none => return .fail label "no alternative matched" s }

/-- The parser's value, or nothing at the same place; never fails. -/
def optional (p : Parser σ ω α) : Parser σ ω (Option α) where
  label := "MAYBE"
  run _ s := do
    match ← p.parse s with
    | .success value rest => return .success (some value) rest
    | .failure _ => return .success none s

/-- Fails where it started, however far the parser got. -/
def attempt (p : Parser σ ω α) : Parser σ ω α where
  label := "ATTEMPT"
  run label s := (fun outcome => (outcome.relabel label).rewind s) <$> p.parse s

end Descent.Parser
