import Descent.Parser.Basic

/-!
# Transformations and observers

Both wrap a parser without changing what it consumes, and keep its label.  A fallible
transformation that refuses a value fails where the parse started.
-/

namespace Descent.Parser

variable {σ ι ω α β ε : Type}

/-- Transforms the value of a success. -/
def map (f : α → β) (p : Parser σ ω α) : Parser σ ω β where
  label := p.label
  run _ s := Outcome.map f <$> p.parse s

/-- Transforms the value of a success, or fails with the error's text. -/
def tryMap (f : α → Except ε β) (message : ε → String) (p : Parser σ ω α) :
    Parser σ ω β where
  label := p.label
  run label s := do
    match ← p.parse s with
    | .failure failed => return .failure failed
    | .success value rest =>
        match f value with
        | .ok result => return .success result rest
        | .error error => return .fail label (message error) s

/-- Writes to the journal what a parser came to. -/
def observed (onSuccess : α → σ → Event) (onFailure : Failed σ → Event)
    (p : Parser σ ω α) : Parser σ ω α where
  label := p.label
  run _ s := do
    let outcome ← p.parse s
    Run.write (outcome.fold onSuccess onFailure)
    return outcome

/-- Records hits and misses under a tag. -/
def watched [Cursor σ ι ω] (tag : String) (p : Parser σ ω Value) : Parser σ ω Value :=
  p.observed (fun value rest => .hit tag value (Cursor.position rest))
    fun failed => .miss tag failed.displayStack (Cursor.position failed.remaining)

/-- Records what a parser did under the label it had when it was traced. -/
def traced [Cursor σ ι ω] (p : Parser σ ω Value) : Parser σ ω Value :=
  p.observed (fun value rest => .trace (.matched p.label value (Cursor.position rest)))
    fun failed =>
      .trace (.missed p.label failed.display (Cursor.position failed.remaining))

end Descent.Parser
