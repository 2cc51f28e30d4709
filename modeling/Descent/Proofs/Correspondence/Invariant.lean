import Descent.Proofs.Correspondence.Symbols

/-!
# Invariants of runs

What all cursors and shared states have in common, and no question of a parser
changes, is kept by whole parses.  An invariant makes the cursors that have it
correspond to themselves, so there is nothing to show for single combinators.
-/

namespace Descent

variable {σ ι κ ω : Type}

/-- A question that may consume an item keeps what is demanded of shared states, and
the cursor after the item has what is demanded of cursors. -/
def Query.Keeps (shared : ω → Prop) (cursors : σ → Prop)
    (query : Query ω (Option (ι × σ))) : Prop :=
  ∀ state, shared state →
    shared (query state).2 ∧ ∀ taken ∈ (query state).1, cursors taken.2

/-- What holds of cursors and of their shared states as long as parsers run. -/
structure Invariant (σ : Type) {ι ω : Type} [Cursor σ ι ω] where
  cursors : σ → Prop
  shared : ω → Prop
  atEnd : ∀ {s}, cursors s → ∀ state, shared state → shared (Cursor.atEnd s state).2
  peek : ∀ {s}, cursors s → ∀ state, shared state → shared (Cursor.peek? s state).2
  take : ∀ {s}, cursors s → ∀ item, Query.Keeps shared cursors (Cursor.take? s item)

namespace Invariant

variable [Cursor σ ι ω]

def none : Invariant σ where
  cursors _ := True
  shared _ := True
  atEnd _ _ _ := trivial
  peek _ _ _ := trivial
  take _ _ _ _ := ⟨trivial, fun _ _ => trivial⟩

variable (invariant : Invariant σ)

def At (s t : σ) : Prop := s = t ∧ invariant.cursors s

def Sharing (first second : ω) : Prop := first = second ∧ invariant.shared first

variable {invariant}

theorem corresponds_of_keeps {query : Query ω (Option (ι × σ))}
    (keeps : Query.Keeps invariant.shared invariant.cursors query) :
    Query.Corresponds invariant.Sharing (Option.Rel (Placed invariant.At)) query query := by
  intro state other same
  obtain ⟨rfl, holds⟩ := same
  obtain ⟨kept, later⟩ := keeps state holds
  refine ⟨Placed.rel_self ?_, rfl, kept⟩
  intro taken member
  exact ⟨rfl, later taken member⟩

variable (invariant)

/-- The correspondence of all that has an invariant to itself. -/
def diagonal (journals : JournalRelation)
    (same : ∀ position, journals.positions position position) : Correspondence σ σ where
  cursors := invariant.At
  shared := invariant.Sharing
  journals := journals
  expects _ := True
  tellsPositions := True
  atEnd there state _ together := by
    obtain ⟨rfl, there⟩ := there
    obtain ⟨rfl, holds⟩ := together
    exact ⟨rfl, rfl, invariant.atEnd there state holds⟩
  peek there state _ together := by
    obtain ⟨rfl, there⟩ := there
    obtain ⟨rfl, holds⟩ := together
    exact ⟨⟨rfl, fun _ _ => trivial⟩, rfl, invariant.peek there state holds⟩
  take _ there := by
    obtain ⟨rfl, there⟩ := there
    exact corresponds_of_keeps (invariant.take there _)
  entryPositions there := by
    obtain ⟨rfl, _⟩ := there
    exact same _
  progress there later := by
    obtain ⟨rfl, _⟩ := there
    obtain ⟨rfl, _⟩ := later
    exact Iff.rfl
  samePositions _ _ _ there := by
    obtain ⟨rfl, _⟩ := there
    rfl

variable {invariant} {journals : JournalRelation}
  {same : ∀ position, journals.positions position position}

/-- An invariant admits every node. -/
theorem fits (rules : Rules ι κ) (grammar : Grammar ι κ) :
    (invariant.diagonal journals same).Fits (Grammar.levels rules grammar)
      (grammar.parts ++ rules.parts) :=
  fun part member =>
    ⟨.of_all (fun _ => trivial) trivial part, (le_max_left _ _).trans (Grammar.le_levels member)⟩

section

variable [Item ι] [Leaves κ σ ω]

theorem runs (leaves : (invariant.diagonal journals same).Leafwise κ)
    (rules : Rules ι κ) (grammar : Grammar ι κ) {s : σ} (there : invariant.cursors s) :
    (invariant.diagonal journals same).Runs 0 (Outcome.Alike invariant.At)
      (grammar.parse rules s) (grammar.parse rules s) :=
  Correspondence.parse_alike_of_all leaves (fun _ => trivial) trivial rules grammar ⟨rfl, there⟩

/-- A parse keeps an invariant, and comes back to the depth it started at. -/
theorem parse (leaves : (invariant.diagonal .unrestricted fun _ => trivial).Leafwise κ)
    (rules : Rules ι κ) (grammar : Grammar ι κ) {s : σ} (there : invariant.cursors s)
    (context : Context ω) (shared : invariant.shared context.shared) :
    invariant.cursors (grammar.parse rules s context).value.remaining ∧
      invariant.shared (grammar.parse rules s context).context.shared ∧
      (grammar.parse rules s context).context.depth = context.depth := by
  have ends := runs leaves rules grammar there context.depth (Nat.zero_le _)
    context.shared context.shared ⟨rfl, shared⟩
  exact ⟨ends.value.remaining.2, ends.shared.2, ends.firstDepth⟩

end

end Invariant

/-- A question for symbols that keeps an invariant makes all leaves keep it. -/
theorem Invariant.leafwise [SymbolCursor σ ω] {invariant : Invariant σ}
    {journals : JournalRelation} {same : ∀ position, journals.positions position position}
    (keeps : ∀ {s : σ}, invariant.cursors s → ∀ accept,
      Query.Keeps invariant.shared invariant.cursors (SymbolCursor.takeSymbol? s accept)) :
    (invariant.diagonal journals same).Leafwise TextLeaf := by
  have symbolic : (invariant.diagonal journals same).Symbolic := by
    refine ⟨?_, fun _ _ => trivial⟩
    intro s t there accept
    obtain ⟨rfl, there⟩ := there
    exact corresponds_of_keeps (keeps there accept)
  exact symbolic.leafwise

end Descent
