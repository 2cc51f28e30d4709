import Descent.Parser.Basic

/-!
# What single runs are like

Some properties of a parse can be told from one run: whether a success has moved the cursor,
what a failure looks like, and whether a repetition came upon an item that consumed nothing.
A conduct says which failures and which stalls there may be.
-/

namespace Descent

variable {σ ι ω α β : Type}

/-- An entry that warns of an item that consumed nothing. -/
def Event.isStall : Event → Bool
  | .warning (.stalled _ _ _) => true
  | _ => false

/-- A cursor stands where another one does or after it, and after it if something has to be
consumed in between. -/
structure Cursor.Ahead [Cursor σ ι ω] (moves : Bool) (s rest : σ) : Prop where
  le : Cursor.position s ≤ Cursor.position rest
  lt : moves = true → Cursor.position s < Cursor.position rest

namespace Cursor.Ahead

variable [Cursor σ ι ω] {moves further : Bool} {s rest last : σ}

theorem refl (s : σ) : Cursor.Ahead false s s := ⟨Nat.le_refl _, Bool.noConfusion⟩

theorem trans (first : Cursor.Ahead moves s rest) (second : Cursor.Ahead further rest last) :
    Cursor.Ahead (moves || further) s last := by
  constructor
  · exact Nat.le_trans first.le second.le
  · intro either
    rcases Bool.or_eq_true_iff.mp either with early | late
    · exact Nat.lt_of_lt_of_le (first.lt early) second.le
    · exact Nat.lt_of_le_of_lt first.le (second.lt late)

theorem weaken (ahead : Cursor.Ahead moves s rest) (fewer : further = true → moves = true) :
    Cursor.Ahead further s rest :=
  ⟨ahead.le, ahead.lt ∘ fewer⟩

end Cursor.Ahead

/-- Cursors that never move back by taking items, and are moved by taking some of them, among
these all that they stand at. -/
structure Cursor.Consumes (σ : Type) {ι ω : Type} [Cursor σ ι ω] (items : ι → Bool) : Prop where
  take : ∀ (s : σ) (item : ι) (state : ω), ∀ taken ∈ (Cursor.take? s item state).1,
    Cursor.Ahead (items item) s taken.2
  peek : ∀ (s : σ) (state : ω), ∀ item ∈ (Cursor.peek? s state).1, items item = true

def SymbolCursor.Consumes (σ : Type) {ω : Type} [SymbolCursor σ ω] : Prop :=
  ∀ (s : σ) (accept : Char → Bool) (state : ω),
    ∀ taken ∈ (SymbolCursor.takeSymbol? s accept state).1, Cursor.Ahead true s taken.2

/-- How parsers may fail, and whether repetitions may stall. -/
structure Conduct (σ : Type) where
  failures : Failed σ → Prop
  stalls : Prop
  report : ∀ label reason place, failures (.report label reason place)
  relabel : ∀ {failed} label, failures failed → failures (failed.relabel label)
  rewind : ∀ {failed} (place : σ), failures failed → failures (failed.rewind place)

namespace Conduct

variable (c : Conduct σ)

def Quiet (journal : Journal) : Prop := ∀ event ∈ journal, event.isStall = true → c.stalls

/-- A run comes to something good, and stalls only if it may. -/
def Runs (good : α → Prop) (run : Run ω α) : Prop :=
  ∀ context, good (run context).value ∧ c.Quiet (run context).journal

/-- Something good was made, and nothing was written of stalls. -/
def Built (good : α → Prop) (logged : Logged α) : Prop :=
  good logged.value ∧ c.Quiet logged.journal

/-- Where a parser that started at a cursor comes to rest. -/
inductive Rests [Cursor σ ι ω] (moves : Bool) (s : σ) : Outcome σ α → Prop where
  | success {value : α} {rest : σ} :
      Cursor.Ahead moves s rest → Rests moves s (.success value rest)
  | failure {failed : Failed σ} : c.failures failed → Rests moves s (.failure failed)

/-- A parser whose successes move the cursor, if they have to. -/
def Parsers [Cursor σ ι ω] (moves : Bool) (p : Parser σ ω α) : Prop :=
  ∀ label s, c.Runs (c.Rests moves s) (p.run label s)

variable {c}

theorem quiet_append {first second : Journal} :
    c.Quiet (first ++ second) ↔ c.Quiet first ∧ c.Quiet second :=
  List.forall_mem_append

theorem quiet_nil : c.Quiet [] := fun _ member => by cases member

theorem quiet_singleton {event : Event} (other : event.isStall = true → c.stalls) :
    c.Quiet [event] :=
  List.forall_mem_singleton.mpr other

namespace Runs

variable {good : α → Prop} {next : β → Prop}

theorem pure {value : α} (holds : good value) : c.Runs good (Pure.pure value : Run ω α) :=
  fun _ => ⟨holds, quiet_nil⟩

theorem bind {first : Run ω α} {later : α → Run ω β} (before : c.Runs good first)
    (after : ∀ value, good value → c.Runs next (later value)) :
    c.Runs next (first >>= later) := by
  intro context
  obtain ⟨start, early⟩ := before context
  obtain ⟨finish, late⟩ := after _ start (first context).context
  exact ⟨finish, quiet_append.mpr ⟨early, late⟩⟩

theorem map {run : Run ω α} {f : α → β} (before : c.Runs good run)
    (after : ∀ value, good value → next (f value)) : c.Runs next (f <$> run) := by
  intro context
  obtain ⟨start, quiet⟩ := before context
  exact ⟨after _ start, quiet⟩

theorem ask (query : Query ω α) :
    c.Runs (fun answer => ∃ state, (query state).1 = answer) (Run.ask query) :=
  fun context => ⟨⟨context.shared, rfl⟩, quiet_nil⟩

theorem write {event : Event} (other : event.isStall = true → c.stalls) :
    c.Runs (fun _ => True) (Run.write event : Run ω Unit) :=
  fun _ => ⟨trivial, quiet_singleton other⟩

theorem adopt {logged : Logged α} (built : c.Built good logged) :
    c.Runs good (Run.adopt logged : Run ω α) :=
  fun _ => built

/-- What follows need to agree only on what the first run can come to. -/
theorem bind_congr {first : Run ω α} {later other : α → Run ω β} (before : c.Runs good first)
    (same : ∀ value, good value → later value = other value) :
    first >>= later = first >>= other := by
  funext context
  simp only [Run.bind_apply, same _ (before context).1]

end Runs

namespace Built

variable {good : α → Prop} {next : β → Prop}

theorem pure {value : α} (holds : good value) : c.Built good (Pure.pure value : Logged α) :=
  ⟨holds, quiet_nil⟩

theorem bind {first : Logged α} {later : α → Logged β} (before : c.Built good first)
    (after : ∀ value, good value → c.Built next (later value)) :
    c.Built next (first >>= later) := by
  obtain ⟨start, early⟩ := before
  obtain ⟨finish, late⟩ := after _ start
  exact ⟨finish, quiet_append.mpr ⟨early, late⟩⟩

theorem map {logged : Logged α} {f : α → β} (before : c.Built good logged)
    (after : ∀ value, good value → next (f value)) :
    c.Built next (logged >>= fun value => Pure.pure (f value)) :=
  before.bind fun value holds => .pure (after value holds)

theorem imp {other : α → Prop} {logged : Logged α} (built : c.Built good logged)
    (weaker : ∀ value, good value → other value) : c.Built other logged :=
  ⟨weaker _ built.1, built.2⟩

theorem bind_congr {logged : Logged α} {later other : α → Logged β} (built : c.Built good logged)
    (same : ∀ value, good value → later value = other value) :
    logged >>= later = logged >>= other := by
  have agree := same _ built.1
  change Logged.bind logged later = Logged.bind logged other
  simp only [Logged.bind, agree]

end Built

namespace Rests

variable [Cursor σ ι ω] {moves further : Bool} {s : σ} {outcome : Outcome σ α}

theorem fail (label reason : String) (place : σ) :
    c.Rests (α := α) moves s (.fail label reason place) :=
  .failure (c.report label reason place)

theorem weaken (rests : c.Rests moves s outcome) (fewer : further = true → moves = true) :
    c.Rests further s outcome := by
  cases rests with
  | success moved => exact .success (moved.weaken fewer)
  | failure allowed => exact .failure allowed

theorem map (rests : c.Rests moves s outcome) (f : α → β) : c.Rests moves s (outcome.map f) := by
  cases rests with
  | success moved => exact .success moved
  | failure allowed => exact .failure allowed

theorem relabel (rests : c.Rests moves s outcome) (label : String) :
    c.Rests moves s (outcome.relabel label) := by
  cases rests with
  | success moved => exact .success moved
  | failure allowed => exact .failure (c.relabel label allowed)

theorem rewind (rests : c.Rests moves s outcome) (place : σ) :
    c.Rests moves s (outcome.rewind place) := by
  cases rests with
  | success moved => exact .success moved
  | failure allowed => exact .failure (c.rewind place allowed)

end Rests

end Conduct

end Descent
