import Descent.Parser.Basic
import Descent.Place

/-!
# Reports of parses

A report holds the outcome of a parse, the entries it wrote, and where it came to
rest.  A complete parse must also leave nothing unread.
-/

namespace Descent

variable {σ ι ω α : Type}

/-- Why a complete parse yields no value. -/
inductive ParseError where
  /-- The parser failed. -/
  | failed (message : String) (position : Nat)
  /-- The parser succeeded but left input unread. -/
  | notConsumed (position : Nat)
  deriving DecidableEq, Repr

namespace ParseError

/-- Where the input was given up. -/
def position : ParseError → Nat
  | .failed _ position => position
  | .notConsumed position => position

/-- The text of an error. -/
def message : ParseError → String
  | .failed message position => message ++ " at position " ++ toString position
  | .notConsumed position =>
      "stream not fully consumed: input remains at position " ++ toString position

end ParseError

/-- Runs a parser and requires it to consume the whole input. -/
def Parser.parseComplete [Cursor σ ι ω] (p : Parser σ ω α) (s : σ) :
    Run ω (Except ParseError α) := do
  match ← p.parse s with
  | .failure failed =>
      return .error (.failed failed.display (Cursor.position failed.remaining))
  | .success value rest =>
      if ← Run.ask (Cursor.atEnd rest) then return .ok value
      else return .error (.notConsumed (Cursor.position rest))

/-- What a parse came to. -/
structure Report (σ : Type) where
  outcome : Outcome σ Value
  events : Journal
  place : Place

/-- Runs a parser and looks where it came to rest. -/
def Parser.examine [Inspectable σ ι ω] [Item ι] (p : Parser σ ω Value) (s : σ) :
    Run ω (Report σ) := fun context =>
  let step := p.parse s context
  let (place, shared) := Place.of step.value.remaining step.context.shared
  ⟨⟨step.value, step.journal.reported, place⟩, { step.context with shared := shared },
    step.journal⟩

/-- An input that has not been read yet: its first cursor and what its cursors will
share. -/
structure Source (σ ω : Type) where
  cursor : σ
  shared : ω

/-- Runs a computation on several inputs in turn, each with its own shared state; the
number of open deferred parsers is handed on. -/
def runInTurn (run : σ → Run ω α) : Nat → List (Source σ ω) → List (Step ω α)
  | _, [] => []
  | depth, source :: later =>
      let step := run source.cursor ⟨source.shared, depth⟩
      step :: runInTurn run step.context.depth later

end Descent
