import Descent.Parser.Basic

/-!
# Correspondences between two kinds of cursors

A correspondence says which cursors, shared states and journals of two kinds of
input belong together, and is respected by everything that parsers ask of
cursors.  Two runs correspond if, started at the same depth in corresponding
states, they give related answers, leave corresponding states and journals, and
come back to the depth they started at.  Runs are put together by `pure` and
`bind` only, so corresponding runs are too.
-/

namespace Descent

variable {α β γ δ ω υ : Type}

/-- Whether an entry tells or changes how many deferred parsers are open. -/
def Event.concernsDepth : Event → Bool
  | .entered _ _ | .exited _ | .warning (.tooDeep _ _ _ _) => true
  | _ => false

theorem Context.of_depth {context : Context ω} {depth : Nat} (same : context.depth = depth) :
    (⟨context.shared, depth⟩ : Context ω) = context := by
  rw [← same]

/-- What it means for two journals to belong together. -/
structure JournalRelation where
  /-- Corresponding journals, written while so many deferred parsers are open. -/
  relates : Nat → Journal → Journal → Prop
  /-- Positions that corresponding entries may mention. -/
  positions : Nat → Nat → Prop
  nil : ∀ depth, relates depth [] []
  append : ∀ {depth first second later last},
    relates depth first second → relates depth later last →
      relates depth (first ++ later) (second ++ last)
  entry : ∀ {depth left right} (event : Nat → Event),
    (∀ position, (event position).concernsDepth = false) →
      positions left right → relates depth [event left] [event right]
  composed : ∀ depth text, relates depth [.composed text] [.composed text]
  tooDeep : ∀ {depth limit left right} (label : String),
    limit ≤ depth → positions left right →
      relates depth [.warning (.tooDeep label limit depth left)]
        [.warning (.tooDeep label limit depth right)]
  bracketed : ∀ {depth first second} (label : String),
    relates (depth + 1) first second →
      relates depth (.entered label depth :: (first ++ [.exited label]))
        (.entered label depth :: (second ++ [.exited label]))

namespace JournalRelation

def unrestricted : JournalRelation where
  relates _ _ _ := True
  positions _ _ := True
  nil _ := trivial
  append _ _ := trivial
  entry _ _ _ := trivial
  composed _ _ := trivial
  tooDeep _ _ _ := trivial
  bracketed _ _ := trivial

def equality : JournalRelation where
  relates _ first second := first = second
  positions left right := left = right
  nil _ := rfl
  append same later := by rw [same, later]
  entry _ _ same := by rw [same]
  composed _ _ := rfl
  tooDeep _ _ same := by rw [same]
  bracketed _ same := by rw [same]

end JournalRelation

/-- Two queries that are asked in corresponding shared states have related answers
and leave corresponding shared states. -/
def Query.Corresponds (shared : ω → υ → Prop) (answers : α → β → Prop)
    (first : Query ω α) (second : Query υ β) : Prop :=
  ∀ left right, shared left right →
    answers (first left).1 (second right).1 ∧ shared (first left).2 (second right).2

/-- Two outcomes with the same value, or with the same reason under the same labels,
whose cursors stand at the same place. -/
inductive Outcome.Alike {σ τ : Type} (places : σ → τ → Prop) :
    Outcome σ α → Outcome τ α → Prop where
  | success {value : α} {rest : σ} {other : τ} :
      places rest other → Alike places (.success value rest) (.success value other)
  | failure {reason : String} {expected : List String} {rest : σ} {other : τ} :
      places rest other →
        Alike places (.failure ⟨reason, expected, rest⟩) (.failure ⟨reason, expected, other⟩)

namespace Outcome.Alike

variable {σ τ : Type} {places : σ → τ → Prop}

theorem mono {others : σ → τ → Prop} {first : Outcome σ α} {second : Outcome τ α}
    (alike : Alike places first second) (imply : ∀ {s t}, places s t → others s t) :
    Alike others first second := by
  cases alike with
  | success there => exact .success (imply there)
  | failure there => exact .failure (imply there)

theorem eq {first second : Outcome σ α} (alike : Alike Eq first second) : first = second := by
  cases alike with
  | success there => rw [there]
  | failure there => rw [there]

theorem remaining {first : Outcome σ α} {second : Outcome τ α}
    (alike : Alike places first second) : places first.remaining second.remaining := by
  cases alike with
  | success there => exact there
  | failure there => exact there

private theorem relabelled {s : σ} {t : τ} (there : places s t)
    (reason : String) (expected : List String) (label : String) :
    Alike (α := α) places (.failure (Failed.relabel ⟨reason, expected, s⟩ label))
      (.failure (Failed.relabel ⟨reason, expected, t⟩ label)) := by
  unfold Failed.relabel Failed.label
  by_cases recorded : label = "" ∨ expected.getLast?.getD "" = label
  · simp only [recorded, if_true]
    exact .failure there
  · simp only [recorded, if_false]
    exact .failure there

theorem fail {s : σ} {t : τ} (there : places s t) (label reason : String) :
    Alike (α := α) places (.fail label reason s) (.fail label reason t) :=
  relabelled there reason [] label

theorem relabel {first : Outcome σ α} {second : Outcome τ α}
    (alike : Alike places first second) (label : String) :
    Alike places (first.relabel label) (second.relabel label) := by
  cases alike with
  | success there => exact .success there
  | failure there => exact relabelled there _ _ label

theorem rewind {first : Outcome σ α} {second : Outcome τ α}
    (alike : Alike places first second) {s : σ} {t : τ} (start : places s t) :
    Alike places (first.rewind s) (second.rewind t) := by
  cases alike with
  | success there => exact .success there
  | failure there => exact .failure start

theorem map {first : Outcome σ α} {second : Outcome τ α}
    (alike : Alike places first second) (f : α → β) :
    Alike places (first.map f) (second.map f) := by
  cases alike with
  | success there => exact .success there
  | failure there => exact .failure there

end Outcome.Alike

/-- Equal values beside corresponding cursors. -/
inductive Placed {σ τ : Type} (cursors : σ → τ → Prop) : α × σ → α × τ → Prop where
  | same {value : α} {s : σ} {t : τ} : cursors s t → Placed cursors (value, s) (value, t)

theorem Placed.of_eq {σ τ : Type} {cursors : σ → τ → Prop} {first : α × σ} {second : α × τ}
    (value : first.1 = second.1) (there : cursors first.2 second.2) :
    Placed cursors first second := by
  obtain ⟨_, _⟩ := first
  cases value
  exact .same there

theorem Placed.rel_self {σ : Type} {places : σ → σ → Prop} {answer : Option (α × σ)}
    (there : ∀ taken ∈ answer, places taken.2 taken.2) :
    Option.Rel (Placed places) answer answer := by
  cases answer with
  | none => exact .none
  | some taken =>
      have moved := there taken rfl
      exact .some (.same moved)

/-- A correspondence between cursors `σ` and `τ`. -/
structure Correspondence (σ τ : Type) {ι ω υ : Type} [Cursor σ ι ω] [Cursor τ ι υ] where
  cursors : σ → τ → Prop
  shared : ω → υ → Prop
  journals : JournalRelation
  /-- The items that parsers may expect. -/
  expects : ι → Prop
  /-- Whether parsers may yield positions. -/
  tellsPositions : Prop
  atEnd : ∀ {s t}, cursors s t →
    Query.Corresponds shared Eq (Cursor.atEnd s) (Cursor.atEnd t)
  peek : ∀ {s t}, cursors s t →
    Query.Corresponds shared (fun left right => left = right ∧ ∀ item ∈ left, expects item)
      (Cursor.peek? s) (Cursor.peek? t)
  take : ∀ {s t item}, expects item → cursors s t →
    Query.Corresponds shared (Option.Rel (Placed cursors))
      (Cursor.take? s item) (Cursor.take? t item)
  entryPositions : ∀ {s t}, cursors s t →
    journals.positions (Cursor.position s) (Cursor.position t)
  /-- Both sides agree on whether a parser has moved. -/
  progress : ∀ {s t r u}, cursors s t → cursors r u →
    (Cursor.position r = Cursor.position s ↔ Cursor.position u = Cursor.position t)
  samePositions : tellsPositions → ∀ {s t}, cursors s t →
    Cursor.position s = Cursor.position t

namespace Correspondence

variable {σ τ ι : Type} [Cursor σ ι ω] [Cursor τ ι υ] (c : Correspondence σ τ)

/-- What two corresponding runs have come to from a depth. -/
structure Ends (depth : Nat) (related : α → β → Prop)
    (first : Step ω α) (second : Step υ β) : Prop where
  value : related first.value second.value
  shared : c.shared first.context.shared second.context.shared
  journal : c.journals.relates depth first.journal second.journal
  firstDepth : first.context.depth = depth
  secondDepth : second.context.depth = depth

/-- Two runs correspond whenever they start with at least `floor` open deferred
parsers. -/
def Runs (floor : Nat) (related : α → β → Prop) (first : Run ω α) (second : Run υ β) :
    Prop :=
  ∀ depth, floor ≤ depth → ∀ left right, c.shared left right →
    c.Ends depth related (first ⟨left, depth⟩) (second ⟨right, depth⟩)

abbrev Outcomes : Outcome σ α → Outcome τ α → Prop := Outcome.Alike c.cursors

/-- Two parsers with one label whose runs correspond under any label. -/
structure Parsers (floor : Nat) (p : Parser σ ω α) (q : Parser τ υ α) : Prop where
  label : p.label = q.label
  run : ∀ label {s t}, c.cursors s t →
    c.Runs floor c.Outcomes (p.run label s) (q.run label t)

variable {c} {floor : Nat}

namespace Runs

theorem pure {related : α → β → Prop} {left : α} {right : β} (holds : related left right) :
    c.Runs floor related (Pure.pure left : Run ω α) (Pure.pure right : Run υ β) := by
  intro depth _ first second alike
  exact ⟨holds, alike, c.journals.nil depth, rfl, rfl⟩

theorem bind {related : α → β → Prop} {next : γ → δ → Prop}
    {first : Run ω α} {second : Run υ β} {later : α → Run ω γ} {last : β → Run υ δ}
    (before : c.Runs floor related first second)
    (after : ∀ left right, related left right → c.Runs floor next (later left) (last right)) :
    c.Runs floor next (first >>= later) (second >>= last) := by
  intro depth above left right alike
  have start := before depth above left right alike
  have finish := after _ _ start.value depth above _ _ start.shared
  rw [Context.of_depth start.firstDepth, Context.of_depth start.secondDepth] at finish
  exact ⟨finish.value, finish.shared, c.journals.append start.journal finish.journal,
    finish.firstDepth, finish.secondDepth⟩

theorem map {related : α → β → Prop} {next : γ → δ → Prop}
    {first : Run ω α} {second : Run υ β} {f : α → γ} {g : β → δ}
    (before : c.Runs floor related first second)
    (after : ∀ left right, related left right → next (f left) (g right)) :
    c.Runs floor next (f <$> first) (g <$> second) := by
  intro depth above left right alike
  have start := before depth above left right alike
  exact ⟨after _ _ start.value, start.shared, start.journal, start.firstDepth,
    start.secondDepth⟩

theorem ask {answers : α → β → Prop} {first : Query ω α} {second : Query υ β}
    (alike : Query.Corresponds c.shared answers first second) :
    c.Runs floor answers (Run.ask first) (Run.ask second) := by
  intro depth _ left right together
  obtain ⟨answered, kept⟩ := alike left right together
  exact ⟨answered, kept, c.journals.nil depth, rfl, rfl⟩

theorem write {first second : Event}
    (alike : ∀ depth, c.journals.relates depth [first] [second]) :
    c.Runs floor Eq (Run.write first : Run ω Unit) (Run.write second : Run υ Unit) := by
  intro depth _ left right together
  exact ⟨rfl, together, alike depth, rfl, rfl⟩

end Runs

end Correspondence

end Descent
