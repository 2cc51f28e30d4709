import Descent.Proofs.Cursor.Buffer
import Descent.Proofs.Session

/-!
# Cursors that share a buffer

What has been pulled into a shared buffer before a parse shows in nothing that the
parse comes to: a buffer answers from its contents, and every question leaves the
contents as they are.  Parses on cursors that share a buffer can change places.
-/

namespace Descent

/-- The contents of a buffer are the given tokens. -/
def TokenBuffer.holding (tokens : Supply String) : Invariant TokenCursor where
  cursors _ := True
  shared buffer := buffer.contents = tokens
  atEnd {s} _ buffer holds := (s.contents_atEnd buffer).trans holds
  peek {s} _ buffer holds := (s.contents_peek? buffer).trans holds
  take {s} _ item buffer holds := ⟨(s.contents_take? item buffer).trans holds, fun _ _ => trivial⟩

theorem TokenBuffer.holding_observed (tokens : Supply String) :
    (TokenBuffer.holding tokens).Observed TextLeaf where
  describe {s} _ buffer holds := by
    change (s.describe buffer).2.contents = tokens
    rw [TokenCursor.describe, TokenCursor.current?, TokenBuffer.get?_eq]
    exact (TokenBuffer.contents_pull buffer s.index).trans holds
  symbol query judged s _ accept buffer holds := by
    cases judged
    exact ⟨(s.contents_takeSymbol? accept buffer).trans holds, fun _ _ => trivial⟩
  foldingCase _ _ := trivial
  leaves := Invariant.leafwise fun {s} _ accept buffer holds =>
    ⟨(s.contents_takeSymbol? accept buffer).trans holds, fun _ _ => trivial⟩

namespace TokenCursor

theorem takeIf?_corresponds (s : TokenCursor) (condition : String → Bool) :
    Query.Corresponds (fun first second : TokenBuffer => first.contents = second.contents)
      (Option.Rel (Placed Eq)) (s.takeIf? condition) (s.takeIf? condition) := by
  intro first second same
  rw [takeIf?_eq, takeIf?_eq, same]
  refine ⟨Placed.rel_self fun _ _ => rfl, ?_⟩
  simp only [TokenBuffer.contents_pull, same]

/-- Equal cursors over buffers of equal contents. -/
def clones : Correspondence TokenCursor TokenCursor where
  cursors := Eq
  shared first second := first.contents = second.contents
  journals := .equality
  expects _ := True
  tellsPositions := True
  atEnd there first second same := by
    cases there
    simp only [atEnd_eq, TokenBuffer.contents_pull, same, and_self]
  peek there first second same := by
    cases there
    simp [peek?_eq, same]
  take _ there := by
    cases there
    exact takeIf?_corresponds _ _
  entryPositions there := by
    cases there
    rfl
  progress there later := by
    cases there
    cases later
    exact Iff.rfl
  samePositions _ _ _ there := by
    cases there
    rfl

theorem clones_symbolic : clones.Symbolic where
  takeSymbol there _ := by
    cases there
    exact takeIf?_corresponds _ _
  marks _ _ := trivial

theorem clones_runs (rules : Rules String TextLeaf) (grammar : Grammar String TextLeaf)
    (s : TokenCursor) :
    clones.Runs 0 clones.Outcomes (grammar.parse rules s) (grammar.parse rules s) :=
  Correspondence.parse_alike_of_all clones_symbolic.leafwise (fun _ => trivial) trivial rules
    grammar rfl

/-- A parse comes to the same after a computation on the same buffer that keeps its
contents and the number of open deferred parsers. -/
theorem parse_of_contents (rules : Rules String TextLeaf) (grammar : Grammar String TextLeaf)
    (s : TokenCursor) {before after : Context TokenBuffer} (depth : after.depth = before.depth)
    (contents : after.shared.contents = before.shared.contents) :
    (grammar.parse rules s after).value = (grammar.parse rules s before).value ∧
      (grammar.parse rules s after).journal = (grammar.parse rules s before).journal := by
  have ends := clones_runs rules grammar s before.depth (Nat.zero_le _) _ _ contents
  rw [Context.of_depth depth] at ends
  exact ⟨ends.value.eq, ends.journal⟩

/-- A parse keeps the contents of the buffer and the number of open deferred parsers. -/
theorem parse_keeps (rules : Rules String TextLeaf) (grammar : Grammar String TextLeaf)
    (s : TokenCursor) (context : Context TokenBuffer) :
    (grammar.parse rules s context).context.depth = context.depth ∧
      (grammar.parse rules s context).context.shared.contents = context.shared.contents := by
  have leaves := (TokenBuffer.holding_observed context.shared.contents).leaves
  obtain ⟨_, contents, depth⟩ := Invariant.parse leaves rules grammar (s := s) trivial context rfl
  exact ⟨depth, contents⟩

end TokenCursor

/-- Two computations come to the same values and journals in either order. -/
structure Run.Commute {ω α β : Type} (first : Run ω α) (second : Run ω β)
    (context : Context ω) : Prop where
  firstValue : (first (second context).context).value = (first context).value
  firstJournal : (first (second context).context).journal = (first context).journal
  secondValue : (second (first context).context).value = (second context).value
  secondJournal : (second (first context).context).journal = (second context).journal

/-- Parses on cursors that share a buffer can change places. -/
theorem TokenCursor.parse_commute (rules rules' : Rules String TextLeaf)
    (grammar grammar' : Grammar String TextLeaf) (s t : TokenCursor)
    (context : Context TokenBuffer) :
    (grammar.parse rules s).Commute (grammar'.parse rules' t) context := by
  obtain ⟨firstDepth, firstContents⟩ := parse_keeps rules grammar s context
  obtain ⟨secondDepth, secondContents⟩ := parse_keeps rules' grammar' t context
  have first := parse_of_contents rules grammar s secondDepth secondContents
  have second := parse_of_contents rules' grammar' t firstDepth firstContents
  exact ⟨first.1, first.2, second.1, second.2⟩

end Descent
