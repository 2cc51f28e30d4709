import Descent.Outcome
import Descent.Cursor.Basic

/-!
# Parsers

A parser has a label and a parsing function that is told the label it currently
runs under, so that renaming a parser also renames the failures it reports itself.
The guard that most parsers carry answers at the end of the input without running
them, and reports their failures under the current label.
-/

namespace Descent

/-- A labeled parsing function from cursors `σ` over shared state `ω` to values `α`. -/
structure Parser (σ ω α : Type) where
  label : String
  run : String → σ → Run ω (Outcome σ α)

namespace Parser

variable {σ ι ω α β : Type}

/-- Runs a parser under its current label. -/
@[inline] def parse (p : Parser σ ω α) (s : σ) : Run ω (Outcome σ α) := p.run p.label s

/-- The same parser under another label. -/
def withLabel (label : String) (p : Parser σ ω α) : Parser σ ω α := { p with label := label }

/-- The same parser, under another label if one is given. -/
def called (name : Option String) (p : Parser σ ω α) : Parser σ ω α :=
  match name with
  | none => p
  | some label => p.withLabel label

/-- The diagnostic text of a parser. -/
def describe (p : Parser σ ω α) : String :=
  Text.recordOf "Parser" [Text.field "label" (Text.quoted p.label), Text.ellipsis]

/-- A parser that succeeds where it stands. -/
def succeed (label : String) (value : α) : Parser σ ω α where
  label := label
  run _ s := return .success value s

/-- A parser that yields what a function makes of the label it runs under. -/
def ownLabel (label : String) (value : String → α) : Parser σ ω α where
  label := label
  run current s := return .success (value current) s

/-- A parser that fails where it stands. -/
def refuse (label reason : String) : Parser σ ω α where
  label := label
  run current s := return .fail current reason s

/-- Reports the failures of a parser under a fixed label; the result has the
parser's own label. -/
def relabeled (label : String) (p : Parser σ ω α) : Parser σ ω α where
  label := p.label
  run _ s := Outcome.relabel label <$> p.parse s

variable [Cursor σ ι ω]

/-- A parser that yields what a function makes of the position where it stands. -/
def here (label : String) (value : Nat → α) : Parser σ ω α where
  label := label
  run _ s := return .success (value (Cursor.position s)) s

/-- Fails with reason `EOF` at the end of the input without running the parser, and
elsewhere reports its failures under the current label. -/
def guarded (p : Parser σ ω α) : Parser σ ω α where
  label := p.label
  run label s := do
    if ← Run.ask (Cursor.atEnd s) then
      return .fail label "EOF" s
    else
      Outcome.relabel label <$> p.parse s

/-- A guarded parser from a parsing function. -/
def create (label : String) (run : σ → Run ω (Outcome σ α)) : Parser σ ω α :=
  guarded ⟨label, fun _ s => run s⟩

/-- A guarded parser that runs another one. -/
def labeled (label : String) (p : Parser σ ω α) : Parser σ ω α := create label p.parse

/-- A guarded parser that always fails with its own reason, at the place where
another parser comes to rest. -/
def failAfter (label inner reason : String) (p : Parser σ ω β) : Parser σ ω α :=
  create label fun s =>
    (fun outcome => .fail inner reason outcome.remaining) <$> p.parse s

/-- Matches one expected item. -/
def exact [Item ι] (expected : ι) : Parser σ ω ι :=
  guarded
    { label := "EXACT " ++ Item.describe expected
      run := fun label s => do
        match ← Run.ask (Cursor.take? s expected) with
        | some (taken, rest) => return .success taken rest
        | none => return .fail label "exact value not found" s }

/-- Matches whatever item comes next, provided that it agrees with itself, and yields
what a function makes of it. -/
def nextItem (label : String) (value : ι → α) : Parser σ ω α :=
  create label fun s => do
    match ← Run.ask (Cursor.peek? s) with
    | none => return .fail "" "no item" s
    | some item =>
        match ← Run.ask (Cursor.take? s item) with
        | some (taken, rest) => return .success (value taken) rest
        | none => return .fail "" "no item" s

section

variable {p : Parser σ ω α} {s : σ} {context : Context ω} {shared : ω} {label : String}

/-- At the end of the input a guarded parser fails without running what it guards. -/
theorem guarded_run_atEnd (ended : Cursor.atEnd s context.shared = (true, shared)) :
    p.guarded.run label s context = ⟨.fail label "EOF" s, ⟨shared, context.depth⟩, []⟩ := by
  simp only [guarded, Run.bind_apply, Run.ask_apply, ended, ↓reduceIte, Run.pure_apply,
    List.append_nil]

/-- Elsewhere a guarded parser runs what it guards and reports its failures under the
label that it has itself by then. -/
theorem guarded_run_unread (unread : Cursor.atEnd s context.shared = (false, shared)) :
    p.guarded.run label s context =
      let inner := p.parse s ⟨shared, context.depth⟩
      ⟨inner.value.relabel label, inner.context, inner.journal⟩ := by
  simp only [guarded, Run.bind_apply, Run.ask_apply, unread, Bool.false_eq_true, ↓reduceIte,
    Run.map_apply, List.nil_append]

theorem guarded_parse_atEnd (ended : Cursor.atEnd s context.shared = (true, shared)) :
    p.guarded.parse s context = ⟨.fail p.label "EOF" s, ⟨shared, context.depth⟩, []⟩ :=
  guarded_run_atEnd ended

theorem guarded_parse_unread (unread : Cursor.atEnd s context.shared = (false, shared)) :
    p.guarded.parse s context =
      let inner := p.parse s ⟨shared, context.depth⟩
      ⟨inner.value.relabel p.label, inner.context, inner.journal⟩ :=
  guarded_run_unread unread

theorem guarded_run_outermost {failed : Failed σ}
    (failure : (p.guarded.run label s context).value = .failure failed) (named : label ≠ "") :
    failed.label = label := by
  rcases asked : Cursor.atEnd s context.shared with ⟨ended, shared⟩
  cases ended with
  | true =>
      rw [guarded_run_atEnd asked] at failure
      cases failure
      exact Failed.label_relabel _ _ named
  | false =>
      rw [guarded_run_unread asked] at failure
      exact Outcome.label_of_relabel failure named

end

end Parser

end Descent
