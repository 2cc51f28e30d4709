import Descent.Proofs.Clones

/-!
# Tokens as slices

Token cursors that compare exactly see their buffer as a slice of its contents.  They
parse what a slice of the same tokens would parse, whatever has been pulled before,
down to the positions and the journal.
-/

namespace Descent

/-- A token cursor that compares exactly and a slice cursor at the same index, the
slice being over the given tokens. -/
structure SameIndex (tokens : List String) (t : TokenCursor) (s : SliceCursor String) :
    Prop where
  exactly : t.caseInsensitive = false
  slice : s = ⟨tokens.toArray, t.index, (· == ·)⟩

namespace SameIndex

variable {tokens : List String} {t : TokenCursor} {s : SliceCursor String}
  {buffer : TokenBuffer}

theorem atEnd (there : SameIndex tokens t s) (holds : buffer.contents = .ofList tokens) :
    (Cursor.atEnd t buffer).1 = decide (s.items.size ≤ s.index) := by
  obtain ⟨_, rfl⟩ := there
  rw [TokenCursor.atEnd_eq, holds, Bool.eq_iff_iff]
  simp

theorem peek (there : SameIndex tokens t s) (holds : buffer.contents = .ofList tokens) :
    (Cursor.peek? t buffer).1 = s.current? := by
  obtain ⟨_, rfl⟩ := there
  rw [TokenCursor.peek?_eq, holds, SliceCursor.current?, List.getElem?_toArray]
  rfl

theorem take (there : SameIndex tokens t s) (holds : buffer.contents = .ofList tokens)
    (expected : String) :
    Option.Rel (Placed (SameIndex tokens)) (Cursor.take? t expected buffer).1
      (s.take? expected) := by
  obtain ⟨exactly, rfl⟩ := there
  have judged : (t.agrees · expected) = (expected == ·) := by
    funext token
    simp [TokenCursor.agrees, exactly, Bool.beq_comm]
  change Option.Rel _ (t.takeIf? (t.agrees · expected) buffer).1 _
  rw [TokenCursor.takeIf?_eq, SliceCursor.take?_eq, List.getElem?_toArray, judged, holds,
    Supply.getElem?_ofList]
  cases tokens[t.index]?.filter (expected == ·) with
  | none => exact .none
  | some token => exact .some (.same ⟨exactly, rfl⟩)

end SameIndex

/-- Tokens correspond to the slice of what their buffer contains. -/
def TokenCursor.asSlice (tokens : List String) :
    Correspondence TokenCursor (SliceCursor String) where
  cursors := SameIndex tokens
  shared buffer _ := buffer.contents = .ofList tokens
  journals := .equality
  expects _ := True
  tellsPositions := True
  atEnd {t s} there buffer _ holds :=
    ⟨there.atEnd holds, (t.contents_atEnd buffer).trans holds⟩
  peek {t s} there buffer _ holds :=
    ⟨⟨there.peek holds, fun _ _ => trivial⟩, (t.contents_peek? buffer).trans holds⟩
  take {t s item} _ there buffer _ holds :=
    ⟨there.take holds item, (t.contents_take? item buffer).trans holds⟩
  entryPositions there := by
    rw [there.slice]
    rfl
  progress there later := by
    rw [there.slice, later.slice]
    rfl
  samePositions _ _ _ there := by
    rw [there.slice]
    rfl

/-- However a session has used the buffer of a token source, grammars without symbol
leaves come to the same outcome, position and journal from an index of the buffer as
from that index of a slice; and parses on the buffer can change places. -/
theorem TokenCursor.parse_refines_slice (source : List (Option String)) (cursor : TokenCursor)
    (commands :
      List (Rules String TextLeaf × Command TokenCursor String TextLeaf TokenBuffer)) :
    ∃ buffer, (Session.opened ⟨cursor, .start source⟩ commands).inputs[0]? = some buffer ∧
      (∀ (rules : Rules String Empty) (grammar : Grammar String Empty) (index depth : Nat),
        let onTokens := grammar.parse rules (⟨index, false⟩ : TokenCursor) ⟨buffer, depth⟩
        let onSlice := grammar.parse rules
          (⟨(TokenBuffer.answered source).toArray, index, (· == ·)⟩ : SliceCursor String)
          ⟨(), depth⟩
        Outcome.Alike (SameIndex (TokenBuffer.answered source)) onTokens.value onSlice.value ∧
          onTokens.journal = onSlice.journal) ∧
      ∀ (rules rules' : Rules String TextLeaf) (grammar grammar' : Grammar String TextLeaf)
        (s t : TokenCursor) (depth : Nat),
        (grammar.parse rules s).Commute (grammar'.parse rules' t) ⟨buffer, depth⟩ := by
  let tokens := TokenBuffer.answered source
  have fresh : (TokenBuffer.holding (.ofList tokens)).shared (.start source) :=
    TokenBuffer.contents_start source
  have reached : (Session.opened ⟨cursor, .start source⟩ commands).Holds 0
      (TokenBuffer.holding (.ofList tokens)) :=
    Session.holds_opened (TokenBuffer.holding_observed _) trivial fresh commands
  obtain ⟨buffer, present, holds⟩ := reached.shared
  refine ⟨buffer, present, ?_, ?_⟩
  · intro rules grammar index depth
    have there : SameIndex (TokenBuffer.answered source) ⟨index, false⟩
        ⟨(TokenBuffer.answered source).toArray, index, (· == ·)⟩ := ⟨rfl, rfl⟩
    have runs := Correspondence.parse_alike_of_all (c := TokenCursor.asSlice _)
      Correspondence.leafwise_empty (fun _ => trivial) trivial rules grammar there
    have ends := runs depth (Nat.zero_le _) buffer () holds
    exact ⟨ends.value, ends.journal⟩
  · intro rules rules' grammar grammar' s t depth
    exact TokenCursor.parse_commute rules rules' grammar grammar' s t ⟨buffer, depth⟩

end Descent
