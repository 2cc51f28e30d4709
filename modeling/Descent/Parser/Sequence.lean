import Descent.Parser.Basic

/-!
# Sequences

One parser runs on what another one left.  The first failure decides, where it was
detected, and is reported under the sequence's label too.
-/

namespace Descent.Parser

variable {σ ω α β γ : Type}

/-- Runs a second parser after a first one, combines both values, and reports
failures of either under the given label. -/
def runBoth (label : String) (combine : α → β → γ) (p : Parser σ ω α) (q : Parser σ ω β)
    (s : σ) : Run ω (Outcome σ γ) := do
  match ← p.parse s with
  | .failure failed => return .failure (failed.relabel label)
  | .success first rest =>
      match ← q.parse rest with
      | .failure failed => return .failure (failed.relabel label)
      | .success second last => return .success (combine first second) last

/-- Both values, in order. -/
def both (p : Parser σ ω α) (q : Parser σ ω β) : Parser σ ω (α × β) where
  label := p.label ++ " AND " ++ q.label
  run label s := runBoth label Prod.mk p q s

/-- The first value; carries the first parser's label. -/
def keepFirst (p : Parser σ ω α) (q : Parser σ ω β) : Parser σ ω α where
  label := p.label
  run label s := runBoth label (fun first _ => first) p q s

/-- The second value; carries the second parser's label. -/
def keepSecond (p : Parser σ ω α) (q : Parser σ ω β) : Parser σ ω β where
  label := q.label
  run label s := runBoth label (fun _ second => second) p q s

/-- A parser between two others, whose values are dropped. -/
def between [Cursor σ ι ω] (before : Parser σ ω α) (after : Parser σ ω β)
    (p : Parser σ ω γ) : Parser σ ω γ :=
  labeled "BETWEEN" ((before.keepSecond p).keepFirst after)

end Descent.Parser
