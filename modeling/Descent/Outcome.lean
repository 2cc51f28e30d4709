import Descent.Text.Quoted

/-!
# Outcomes of a parse

A parse never aborts.  It either succeeds with a value and the cursor after it, or
fails with a reason, the labels the failure was reported under on its way outward,
and the cursor where it was detected.  Only `rewind` moves a failure; reporting it
under a further label does not.
-/

namespace Descent

variable {σ τ α β γ : Type}

/-- A failed parse.  `expected` lists the labels innermost first. -/
structure Failed (σ : Type) where
  reason : String
  expected : List String
  remaining : σ
  deriving DecidableEq, Repr

namespace Failed

/-- The outermost label, or the empty text if there is none. -/
def label (failed : Failed σ) : String := failed.expected.getLast?.getD ""

/-- Reports a failure under a label.  An empty label is not recorded, and equal
neighbours are recorded once. -/
def relabel (failed : Failed σ) (label : String) : Failed σ :=
  if label = "" ∨ failed.label = label then failed
  else { failed with expected := failed.expected ++ [label] }

/-- Moves a failure to another cursor, keeping reason and labels. -/
def rewind (failed : Failed σ) (remaining : τ) : Failed τ :=
  { reason := failed.reason, expected := failed.expected, remaining := remaining }

/-- A new failure, reported under a label. -/
def report (label reason : String) (remaining : σ) : Failed σ :=
  relabel { reason := reason, expected := [], remaining := remaining } label

/-- The reason, preceded by what was expected if anything was. -/
def explain (expectation : Option String) (reason : String) : String :=
  match expectation with
  | none => reason
  | some text => "Expected: " ++ text ++ " (" ++ reason ++ ")"

/-- The failure with its outermost label. -/
def display (failed : Failed σ) : String :=
  explain failed.expected.getLast? failed.reason

/-- The failure with all its labels, outermost first. -/
def displayStack (failed : Failed σ) : String :=
  if failed.expected.isEmpty then failed.reason
  else explain (some (String.intercalate " <- " failed.expected.reverse)) failed.reason

@[simp] theorem relabel_empty (failed : Failed σ) : failed.relabel "" = failed := by
  simp [relabel]

@[simp] theorem relabel_reason (failed : Failed σ) (label : String) :
    (failed.relabel label).reason = failed.reason := by
  unfold relabel
  split <;> rfl

@[simp] theorem relabel_remaining (failed : Failed σ) (label : String) :
    (failed.relabel label).remaining = failed.remaining := by
  unfold relabel
  split <;> rfl

theorem label_relabel (failed : Failed σ) (label : String) (named : label ≠ "") :
    (failed.relabel label).label = label := by
  unfold relabel
  split
  · next same => exact same.resolve_left named
  · simp [Failed.label]

theorem relabel_relabel (failed : Failed σ) (label : String) :
    (failed.relabel label).relabel label = failed.relabel label := by
  by_cases named : label = ""
  · simp [named]
  · exact if_pos (.inr (label_relabel failed label named))

end Failed

/-- What running a parser over cursors `σ` comes to. -/
inductive Outcome (σ α : Type) where
  | success (value : α) (remaining : σ)
  | failure (failed : Failed σ)
  deriving DecidableEq, Repr

namespace Outcome

/-- A failure reported under a label. -/
def fail (label reason : String) (remaining : σ) : Outcome σ α :=
  .failure (Failed.report label reason remaining)

/-- One function for each kind of outcome. -/
def fold (onSuccess : α → σ → γ) (onFailure : Failed σ → γ) : Outcome σ α → γ
  | .success value remaining => onSuccess value remaining
  | .failure failed => onFailure failed

/-- Whether the parse succeeded. -/
def isSuccess : Outcome σ α → Bool
  | .success _ _ => true
  | .failure _ => false

/-- Whether the parse failed. -/
def isFailure (outcome : Outcome σ α) : Bool := !outcome.isSuccess

/-- The cursor after the parse, whichever way it went. -/
def remaining : Outcome σ α → σ
  | .success _ remaining => remaining
  | .failure failed => failed.remaining

/-- Transforms the value of a success. -/
def map (f : α → β) : Outcome σ α → Outcome σ β
  | .success value remaining => .success (f value) remaining
  | .failure failed => .failure failed

/-- Changes a failure, leaving successes alone. -/
def mapFailure (f : Failed σ → Failed σ) : Outcome σ α → Outcome σ α
  | .success value remaining => .success value remaining
  | .failure failed => .failure (f failed)

/-- Reports a failure under a further label. -/
def relabel (label : String) (outcome : Outcome σ α) : Outcome σ α :=
  outcome.mapFailure (·.relabel label)

/-- Moves a failure to another place. -/
def rewind (place : σ) (outcome : Outcome σ α) : Outcome σ α :=
  outcome.mapFailure (·.rewind place)

/-- The fields of an outcome as a diagnostic text. -/
def describe (describeValue : α → String) (describeCursor : σ → String) :
    Outcome σ α → String
  | .success value remaining =>
      Text.recordOf "Parsed"
        [Text.field "value" (describeValue value),
          Text.field "remaining" (describeCursor remaining)]
  | .failure failed =>
      Text.recordOf "Failed"
        [Text.field "reason" (Text.quoted failed.reason),
          Text.field "expected" (Text.bracketed (failed.expected.map Text.quoted)),
          Text.field "remaining" (describeCursor failed.remaining)]

theorem fail_eq (label reason : String) (place : σ) :
    (fail label reason place : Outcome σ α) =
      .failure ⟨reason, if label = "" then [] else [label], place⟩ := by
  unfold fail Failed.report Failed.relabel Failed.label
  by_cases unnamed : label = ""
  · simp [unnamed]
  · simp [unnamed, Ne.symm unnamed]

@[simp] theorem isSuccess_map (f : α → β) (outcome : Outcome σ α) :
    (outcome.map f).isSuccess = outcome.isSuccess := by
  cases outcome <;> rfl

@[simp] theorem isSuccess_mapFailure (f : Failed σ → Failed σ) (outcome : Outcome σ α) :
    (outcome.mapFailure f).isSuccess = outcome.isSuccess := by
  cases outcome <;> rfl

@[simp] theorem relabel_relabel (label : String) (outcome : Outcome σ α) :
    (outcome.relabel label).relabel label = outcome.relabel label := by
  cases outcome with
  | success value remaining => rfl
  | failure failed => exact congrArg Outcome.failure (failed.relabel_relabel label)

@[simp] theorem relabel_fail (label reason : String) (place : σ) :
    (fail label reason place : Outcome σ α).relabel label = fail label reason place :=
  relabel_relabel label (.failure ⟨reason, [], place⟩)

/-- A failure reported under a label has it as its outermost one. -/
theorem label_of_relabel {label : String} {outcome : Outcome σ α} {failed : Failed σ}
    (failure : outcome.relabel label = .failure failed) (named : label ≠ "") :
    failed.label = label := by
  cases outcome with
  | success value remaining => cases failure
  | failure inner =>
      cases failure
      exact inner.label_relabel label named

end Outcome

end Descent
