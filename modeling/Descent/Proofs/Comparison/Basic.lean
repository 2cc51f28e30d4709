import Descent.Parser.Basic
import Descent.Proofs.Grammar.Variation

/-!
# Comparisons of two runs on one input

Parsers of two grammars of one shape can be run on the same cursor in the same
context.  A comparison says what may differ between the two runs: what the grammars
differ in, which entries of the journals belong together, and where failures may
come to rest.  It may set aside all runs in which the first grammar writes certain
entries.  Successes and contexts never differ, so whatever runs next can be compared
again.
-/

namespace Descent

variable {σ ι κ ω α β γ δ : Type}

/-- Entries that tell the same, apart from labels and texts if labels may differ. -/
inductive Event.Alike (sameLabels : Prop) (opens : Nat → Prop) (positions : Nat → Nat → Prop) :
    Event → Event → Prop where
  | hit (tag : String) (value : Value) (position : Nat) :
      Alike sameLabels opens positions (.hit tag value position) (.hit tag value position)
  | miss {text other : String} {position place : Nat} (tag : String) :
      (sameLabels → text = other) → positions position place →
        Alike sameLabels opens positions (.miss tag text position) (.miss tag other place)
  | composed {text other : String} :
      (sameLabels → text = other) →
        Alike sameLabels opens positions (.composed text) (.composed other)
  | stalled {label other item item' : String} (position : Nat) :
      (sameLabels → label = other) → (sameLabels → item = item') →
        Alike sameLabels opens positions (.warning (.stalled label item position))
          (.warning (.stalled other item' position))
  | tooDeep {label other : String} (limit depth position : Nat) :
      (sameLabels → label = other) →
        Alike sameLabels opens positions (.warning (.tooDeep label limit depth position))
          (.warning (.tooDeep other limit depth position))
  | matched {label other : String} (value : Value) (position : Nat) :
      (sameLabels → label = other) →
        Alike sameLabels opens positions (.trace (.matched label value position))
          (.trace (.matched other value position))
  | missed {label other text text' : String} {position place : Nat} :
      (sameLabels → label = other) → (sameLabels → text = text') → positions position place →
        Alike sameLabels opens positions (.trace (.missed label text position))
          (.trace (.missed other text' place))
  | entered {label other : String} {depth : Nat} :
      (sameLabels → label = other) → opens depth →
        Alike sameLabels opens positions (.entered label depth) (.entered other depth)
  | exited {label other : String} :
      (sameLabels → label = other) →
        Alike sameLabels opens positions (.exited label) (.exited other)

/-- What may differ between two runs on cursors `σ`, of grammars with leaves `κ`.  Unless
something else is said, the failures of both runs come to rest at the same place, and it
does not matter where that is. -/
structure Comparison (σ κ : Type) {ι ω : Type} [Cursor σ ι ω] extends Variation κ where
  /-- Entries that do not set the run of the first grammar aside. -/
  permits : Event → Prop
  /-- Depths at which deferred parsers are opened. -/
  opens : Nat → Prop
  /-- Where a parser may come to rest. -/
  ahead : σ → σ → Prop := fun _ _ => True
  /-- Where the failures of the two runs may come to rest. -/
  places : σ → σ → Prop := Eq
  positions : Nat → Nat → Prop := Eq
  ahead_refl : ∀ s, ahead s s := by exact fun _ => trivial
  ahead_trans : ∀ {s r t}, ahead s r → ahead r t → ahead s t := by exact fun _ _ => trivial
  take_ahead : ∀ {s : σ} {item : ι} {state : ω} {taken : ι × σ},
    (Cursor.take? s item state).1 = some taken → ahead s taken.2 := by exact fun _ => trivial
  places_refl : ∀ r, places r r := by exact fun _ => rfl
  positions_of_places : ∀ {r t}, places r t →
    positions (Cursor.position r) (Cursor.position t) := by exact congrArg Cursor.position
  attempted : attempts → ¬sameLabels ∧ ∀ {s r t}, ahead s r → places r t → places r s := by
    exact False.elim
  cap : ∀ {limits other}, repetitions limits other →
    other.maxRepetitions = limits.maxRepetitions
  progress : ∀ {limits other}, repetitions limits other →
    other.requireProgress = limits.requireProgress ∨
      other.requireProgress = false ∧
        ∀ label item position, ¬permits (.warning (.stalled label item position))
  room : ∀ {limits other}, deferrals limits other →
    ∀ depth < limits.maxRecursionDepth, opens depth
  depth : ∀ {limits other}, deferrals limits other →
    other.maxRecursionDepth = limits.maxRecursionDepth ∨
      limits.maxRecursionDepth ≤ other.maxRecursionDepth ∧
        ∀ label limit depth position, ¬permits (.warning (.tooDeep label limit depth position))

namespace Comparison

variable [Cursor σ ι ω] (c : Comparison σ κ)

abbrev Entries : Journal → Journal → Prop :=
  List.Forall₂ (Event.Alike c.sameLabels c.opens c.positions)

def Permitted (journal : Journal) : Prop := ∀ event ∈ journal, c.permits event

structure Ends (depth : Nat) (related : α → β → Prop) (first : Step ω α) (second : Step ω β) :
    Prop where
  value : related first.value second.value
  context : second.context = first.context
  depth : first.context.depth = depth
  journal : c.Entries first.journal second.journal

/-- The two runs compare whenever they start with at least `floor` open deferred parsers
and the first one is not set aside. -/
def Runs (floor : Nat) (related : α → β → Prop) (first : Run ω α) (second : Run ω β) : Prop :=
  ∀ context, floor ≤ context.depth → c.Permitted (first context).journal →
    c.Ends context.depth related (first context) (second context)

/-- Outcomes of two parsers that were started on the same cursor. -/
inductive Agree (s : σ) : Outcome σ α → Outcome σ α → Prop where
  | success {value : α} {rest : σ} :
      c.ahead s rest → Agree s (.success value rest) (.success value rest)
  | failure {reason : String} {expected expected' : List String} {rest other : σ} :
      (c.sameLabels → expected = expected') → c.ahead s rest → c.places rest other →
        Agree s (.failure ⟨reason, expected, rest⟩) (.failure ⟨reason, expected', other⟩)

/-- Two parsers whose runs agree, under labels that belong together. -/
structure Parsers (floor : Nat) (p q : Parser σ ω α) : Prop where
  label : c.Labels p.label q.label
  run : ∀ {label other}, c.Labels label other → ∀ s,
    c.Runs floor (c.Agree s) (p.run label s) (q.run other s)

variable {c} {floor : Nat}

theorem permitted_append {first second : Journal} :
    c.Permitted (first ++ second) ↔ c.Permitted first ∧ c.Permitted second :=
  List.forall_mem_append

namespace Runs

theorem pure {related : α → β → Prop} {left : α} {right : β} (holds : related left right) :
    c.Runs floor related (Pure.pure left : Run ω α) (Pure.pure right : Run ω β) := by
  intro context _ _
  exact ⟨holds, rfl, rfl, .nil⟩

theorem bind {related : α → β → Prop} {next : γ → δ → Prop} {first : Run ω α}
    {second : Run ω β} {later : α → Run ω γ} {last : β → Run ω δ}
    (before : c.Runs floor related first second)
    (after : ∀ left right, related left right → c.Runs floor next (later left) (last right)) :
    c.Runs floor next (first >>= later) (second >>= last) := by
  intro context above permitted
  obtain ⟨early, late⟩ := permitted_append.mp permitted
  have start := before context above early
  have finish := after _ _ start.value (first context).context
    (start.depth.symm ▸ above) late
  have journals := List.rel_append start.journal finish.journal
  rw [start.depth] at finish
  rw [Run.bind_apply, Run.bind_apply, start.context]
  exact ⟨finish.value, finish.context, finish.depth, journals⟩

theorem map {related : α → β → Prop} {next : γ → δ → Prop} {first : Run ω α}
    {second : Run ω β} {f : α → γ} {g : β → δ} (before : c.Runs floor related first second)
    (after : ∀ left right, related left right → next (f left) (g right)) :
    c.Runs floor next (f <$> first) (g <$> second) := by
  intro context above permitted
  have start := before context above permitted
  exact ⟨after _ _ start.value, start.context, start.depth, start.journal⟩

/-- Both sides ask the same and get the same answer. -/
theorem ask (query : Query ω α) :
    c.Runs floor (fun left right => left = right ∧ ∃ state, (query state).1 = left)
      (Run.ask query) (Run.ask query) := by
  intro context _ _
  exact ⟨⟨rfl, _, rfl⟩, rfl, rfl, .nil⟩

theorem write {first second : Event}
    (alike : Event.Alike c.sameLabels c.opens c.positions first second) :
    c.Runs floor Eq (Run.write first : Run ω Unit) (Run.write second) := by
  intro context _ _
  exact ⟨rfl, rfl, rfl, .cons alike .nil⟩

theorem write_forbidden {related : α → β → Prop} {event : Event} {later : Unit → Run ω α}
    {second : Run ω β} (forbidden : ¬c.permits event) :
    c.Runs floor related (Run.write event >>= later) second := by
  intro context _ permitted
  exact absurd (permitted event (List.mem_cons_self ..)) forbidden

end Runs

namespace Agree

variable {s : σ} {first second : Outcome σ α}

theorem later {r : σ} (moved : c.ahead s r) (agree : c.Agree r first second) :
    c.Agree s first second := by
  cases agree with
  | success further => exact .success (c.ahead_trans moved further)
  | failure expected further there => exact .failure expected (c.ahead_trans moved further) there

theorem map (agree : c.Agree s first second) (f : α → β) :
    c.Agree s (first.map f) (second.map f) := by
  cases agree with
  | success moved => exact .success moved
  | failure expected moved there => exact .failure expected moved there

private theorem relabelled {reason : String} {expected expected' : List String} {rest other : σ}
    (same : c.sameLabels → expected = expected') (moved : c.ahead s rest)
    (there : c.places rest other) {label label' : String} (labels : c.Labels label label') :
    c.Agree (α := α) s (.failure (Failed.relabel ⟨reason, expected, rest⟩ label))
      (.failure (Failed.relabel ⟨reason, expected', other⟩ label')) := by
  have recorded : c.sameLabels →
      (Failed.relabel ⟨reason, expected, rest⟩ label).expected =
        (Failed.relabel ⟨reason, expected', other⟩ label').expected := by
    intro exactly
    rw [same exactly, labels exactly]
    unfold Failed.relabel Failed.label
    split <;> rfl
  have agree : c.Agree (α := α) s
      (.failure ⟨reason, (Failed.relabel ⟨reason, expected, rest⟩ label).expected, rest⟩)
      (.failure ⟨reason, (Failed.relabel ⟨reason, expected', other⟩ label').expected, other⟩) :=
    .failure recorded moved there
  have eta : ∀ (labels : List String) (place : σ) (label : String),
      (⟨reason, (Failed.relabel ⟨reason, labels, place⟩ label).expected, place⟩ : Failed σ) =
        Failed.relabel ⟨reason, labels, place⟩ label := by
    intro labels place label
    unfold Failed.relabel
    split <;> rfl
  rwa [eta, eta] at agree

theorem relabel (agree : c.Agree s first second) {label other : String}
    (labels : c.Labels label other) : c.Agree s (first.relabel label) (second.relabel other) := by
  cases agree with
  | success moved => exact .success moved
  | failure expected moved there => exact relabelled expected moved there labels

theorem report {rest other : σ} (moved : c.ahead s rest) (there : c.places rest other)
    {label label' : String} (labels : c.Labels label label') (reason : String) :
    c.Agree (α := α) s (.fail label reason rest) (.fail label' reason other) :=
  relabelled (fun _ => rfl) moved there labels

theorem fail {label other : String} (labels : c.Labels label other) (reason : String) :
    c.Agree (α := α) s (.fail label reason s) (.fail other reason s) :=
  report (c.ahead_refl s) (c.places_refl s) labels reason

theorem rewind (agree : c.Agree s first second) :
    c.Agree s (first.rewind s) (second.rewind s) := by
  cases agree with
  | success moved => exact .success moved
  | failure expected _ _ => exact .failure expected (c.ahead_refl s) (c.places_refl s)

/-- Attempting the second parser only moves its failures. -/
theorem rewindSecond (attempts : c.attempts) (agree : c.Agree s first second) :
    c.Agree s first (second.rewind s) := by
  cases agree with
  | success moved => exact .success moved
  | failure expected moved there =>
      exact .failure expected moved ((c.attempted attempts).2 moved there)

end Agree

end Comparison

end Descent
