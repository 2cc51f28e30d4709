import Descent.Proofs.Clones
import Descent.Proofs.Cursor.Text

/-!
# Parses stay inside their input

Whether a parse succeeds or fails, it comes to rest over the input it started on,
comparing in the same way, at or after the place where it started and not beyond the
end.  A cursor over a text rests between two characters.  Sessions reach no other
cursors than those for which this can be said.
-/

namespace Descent

namespace TextCursor

open Text (byteCount byteCount_eq_utf8ByteSize)

/-- The places of a text from a number of characters on. -/
def onward (input : String) (options : TextOptions) (start : Nat) : Invariant TextCursor where
  cursors r := ∃ count, start ≤ count ∧ r = after input options count
  shared _ := True
  atEnd _ _ _ := trivial
  peek _ _ _ := trivial
  take there item _ _ := by
    obtain ⟨count, ahead, rfl⟩ := there
    refine ⟨trivial, ?_⟩
    intro taken success
    obtain ⟨further, moved⟩ := exists_after_of_take? success
    exact ⟨count + further, Nat.le_add_right_of_le ahead, moved⟩

variable {input : String} {options : TextOptions} {start : Nat}

theorem onward_takeSymbol {s : TextCursor} (there : (onward input options start).cursors s)
    (accept : Char → Bool) :
    Query.Keeps (onward input options start).shared (onward input options start).cursors
      (SymbolCursor.takeSymbol? s accept) := by
  obtain ⟨count, ahead, rfl⟩ := there
  intro _ _
  refine ⟨trivial, ?_⟩
  intro taken success
  change (after input options count).takeSymbol? accept = some taken at success
  rw [takeSymbol?_after, Option.map_eq_some_iff] at success
  obtain ⟨c, _, rfl⟩ := success
  exact ⟨count + 1, Nat.le_add_right_of_le ahead, rfl⟩

theorem onward_observed (input : String) (options : TextOptions) (start : Nat) :
    (onward input options start).Observed TextLeaf where
  describe _ _ _ := trivial
  symbol query judged _ there := by
    cases judged
    exact onward_takeSymbol there
  foldingCase _ folded := by cases folded
  leaves := Invariant.leafwise onward_takeSymbol

/-- What was taken is the slice of the text from the place before to the place after. -/
structure Within (input : String) (r : TextCursor) (taken : String × TextCursor) : Prop where
  sliceable : Text.Sliceable input r.offset (r.offset + taken.1.utf8ByteSize)
  sliced : taken.1 = Text.slice input r.offset (r.offset + taken.1.utf8ByteSize) sliceable
  moved : taken.2.offset = r.offset + taken.1.utf8ByteSize

theorem within_pass (s : TextCursor) (count : Nat) : Within s.input s (s.pass count) := by
  have bytes : (s.pass count).1.utf8ByteSize = byteCount (s.unread.take count) := by
    rw [pass_fst, byteCount_eq_utf8ByteSize]
  have inside : Text.Sliceable s.input s.offset (s.offset + (s.pass count).1.utf8ByteSize) := by
    rw [bytes]
    exact s.sliceable_take count
  refine ⟨inside, ?_, ?_⟩
  · simp only [bytes]
    rfl
  · rw [bytes]
    rfl

/-- A cursor over a text is at or after another one, and every slice of the text that it is
asked for is one between two characters of it: the rest, the characters that are compared with
an expected text, what matches that text, and whatever is taken. -/
structure Onward (input : String) (s r : TextCursor) : Prop where
  sameInput : r.input = s.input
  sameOptions : r.options = s.options
  forward : s.offset ≤ r.offset
  inside : r.offset ≤ input.utf8ByteSize
  rest : ∃ read, read ++ r.rest = input ∧ read.utf8ByteSize = r.offset
  unread : Text.Sliceable input r.offset input.utf8ByteSize
  compared : ∀ number length, Text.lengthThrough? input r.offset 0 number = some length →
    Text.Sliceable input r.offset (r.offset + length)
  matched : ∀ expected length, r.matchLength? expected = some length →
    Text.Sliceable input r.offset (r.offset + length)
  taking : ∀ expected, ∀ taken ∈ r.take? expected, Within input r taken
  symbol : ∀ accept, ∀ taken ∈ r.takeSymbol? accept, Within input r taken

theorem onward_after {count further : Nat} (ordered : count ≤ further) :
    Onward input (after input options count) (after input options further) where
  sameInput := rfl
  sameOptions := rfl
  forward := offset_after_mono ordered
  inside := (after input options further).boundary.le_utf8ByteSize
  rest := (after input options further).exists_append_rest
  unread := Text.sliceable_end (after input options further).boundary
  compared _ _ found := Text.sliceable_lengthThrough? (after input options further).boundary found
  matched _ _ found := sliceable_matchLength? found
  taking _ _ success := by
    rw [of_take? success]
    exact within_pass (after input options further) _
  symbol _ _ success := by
    rw [of_takeSymbol? success]
    exact within_pass (after input options further) 1

theorem parse_onward (input : String) (options : TextOptions)
    (commands : List (Rules String TextLeaf × Command TextCursor String TextLeaf Unit))
    {entry : Register TextCursor}
    (member : entry ∈ (Session.opened ⟨.start input options, ()⟩ commands).registers)
    (own : entry.input = 0) (rules : Rules String TextLeaf) (grammar : Grammar String TextLeaf)
    (depth : Nat) :
    Onward input entry.cursor
      (grammar.parse rules entry.cursor ⟨(), depth⟩).value.remaining := by
  have first : (onward input options 0).cursors (.start input options) :=
    ⟨0, Nat.le_refl 0, start_eq_after input options⟩
  have reached : (Session.opened ⟨.start input options, ()⟩ commands).Holds 0
      (onward input options 0) :=
    Session.holds_opened (onward_observed input options 0) first trivial commands
  obtain ⟨count, _, there⟩ := reached.cursors entry member own
  rw [there]
  have here : (onward input options count).cursors (after input options count) :=
    ⟨count, Nat.le_refl count, rfl⟩
  have leaves := (onward_observed input options count).leaves
  obtain ⟨⟨further, ordered, rested⟩, _⟩ :=
    Invariant.parse leaves rules grammar here ⟨(), depth⟩ trivial
  rw [rested]
  exact onward_after ordered

end TextCursor

namespace TokenCursor

variable {tokens : Supply String} {comparing : Bool → Prop} {start : Nat}

theorem keeps_takeIf? (comparing : Bool → Prop) {s : TokenCursor} (ahead : start ≤ s.index)
    (comparison : comparing s.caseInsensitive) (condition : String → Bool) :
    Query.Keeps (fun buffer : TokenBuffer => buffer.contents = tokens)
      (fun r : TokenCursor =>
        start ≤ r.index ∧ tokens.Reaches r.index ∧ comparing r.caseInsensitive)
      (s.takeIf? condition) := by
  intro buffer holds
  refine ⟨(s.contents_takeIf? condition buffer).trans holds, ?_⟩
  intro taken success
  obtain ⟨moved, present⟩ := of_takeIf? success
  rw [holds] at present
  rw [moved]
  exact ⟨Nat.le_succ_of_le ahead, Supply.reaches_succ_iff.mpr (by rw [present]; rfl), comparison⟩

/-- The places among tokens from an index on, comparing in certain ways. -/
def onward (tokens : Supply String) (comparing : Bool → Prop) (start : Nat) :
    Invariant TokenCursor where
  cursors r := start ≤ r.index ∧ tokens.Reaches r.index ∧ comparing r.caseInsensitive
  shared buffer := buffer.contents = tokens
  atEnd {s} _ buffer holds := (s.contents_atEnd buffer).trans holds
  peek {s} _ buffer holds := (s.contents_peek? buffer).trans holds
  take there _ := keeps_takeIf? comparing there.1 there.2.2 _

theorem onward_leafwise {journals : JournalRelation}
    {same : ∀ position, journals.positions position position} :
    ((onward tokens comparing start).diagonal journals same).Leafwise TextLeaf :=
  Invariant.leafwise fun there _ => keeps_takeIf? comparing there.1 there.2.2 _

theorem onward_observed (tokens : Supply String) :
    (onward tokens (fun _ => True) 0).Observed TextLeaf where
  describe _ := (TokenBuffer.holding_observed tokens).describe trivial
  symbol query judged s there accept := by
    cases judged
    exact keeps_takeIf? (fun _ => True) there.1 trivial _
  foldingCase there folded := by
    cases folded
    exact there
  leaves := onward_leafwise

/-- A token cursor is at or after another one and not beyond the last token, and takes
only tokens that are there. -/
structure Onward (tokens : Supply String) (s r : TokenCursor) (buffer : TokenBuffer) : Prop where
  sameTokens : buffer.contents = tokens
  sameCase : r.caseInsensitive = s.caseInsensitive
  forward : s.index ≤ r.index
  inside : tokens.Reaches r.index
  taking : ∀ condition, ∀ taken ∈ (r.takeIf? condition buffer).1,
    taken.2.index = r.index + 1 ∧ tokens[r.index]? = some taken.1 ∧ tokens.Reaches (r.index + 1)

theorem parse_onward (source : TokenSource) (caseInsensitive : Bool)
    (commands :
      List (Rules String TextLeaf × Command TokenCursor String TextLeaf TokenBuffer)) :
    ∃ buffer, (Session.opened ⟨⟨0, caseInsensitive⟩, .fresh source⟩ commands).inputs[0]? =
        some buffer ∧
      ∀ entry ∈ (Session.opened ⟨⟨0, caseInsensitive⟩, .fresh source⟩ commands).registers,
        entry.input = 0 → ∀ (rules : Rules String TextLeaf) (grammar : Grammar String TextLeaf)
          (depth : Nat),
          let step := grammar.parse rules entry.cursor ⟨buffer, depth⟩
          Onward source.given entry.cursor step.value.remaining step.context.shared := by
  have first : (onward source.given (fun _ => True) 0).cursors ⟨0, caseInsensitive⟩ :=
    ⟨Nat.le_refl 0, Supply.reaches_zero _, trivial⟩
  have fresh : (onward source.given (fun _ => True) 0).shared (.fresh source) :=
    TokenBuffer.contents_fresh source
  have reached : (Session.opened ⟨⟨0, caseInsensitive⟩, .fresh source⟩ commands).Holds 0
      (onward source.given (fun _ => True) 0) :=
    Session.holds_opened (onward_observed _) first fresh commands
  obtain ⟨buffer, present, holds⟩ := reached.shared
  refine ⟨buffer, present, ?_⟩
  intro entry member own rules grammar depth
  obtain ⟨_, within, _⟩ := reached.cursors entry member own
  have here : (onward source.given (· = entry.cursor.caseInsensitive)
      entry.cursor.index).cursors entry.cursor := ⟨Nat.le_refl _, within, rfl⟩
  obtain ⟨⟨forward, inside, sameCase⟩, contents, _⟩ :=
    Invariant.parse onward_leafwise rules grammar here ⟨buffer, depth⟩ holds
  refine ⟨contents, sameCase, forward, inside, ?_⟩
  intro condition taken success
  obtain ⟨moved, available⟩ := of_takeIf? success
  rw [contents] at available
  exact ⟨by rw [moved]; rfl, available, Supply.reaches_succ_iff.mpr (by rw [available]; rfl)⟩

end TokenCursor

namespace SliceCursor

variable {ι : Type}

/-- The places in an array from an index on. -/
def onward (items : Array ι) (agrees : ι → ι → Bool) (start : Nat) :
    Invariant (SliceCursor ι) where
  cursors r := r.items = items ∧ r.agrees = agrees ∧ start ≤ r.index ∧ r.index ≤ items.size
  shared _ := True
  atEnd _ _ _ := trivial
  peek _ _ _ := trivial
  take there item _ _ := by
    obtain ⟨rfl, rfl, ahead, _⟩ := there
    refine ⟨trivial, ?_⟩
    intro taken success
    obtain ⟨moved, present⟩ := of_take? success
    rw [moved]
    exact ⟨rfl, rfl, Nat.le_succ_of_le ahead, present⟩

theorem onward_observed [Item ι] (items : Array ι) (agrees : ι → ι → Bool) :
    (onward items agrees 0).Observed Empty where
  describe _ _ _ := trivial
  symbol _ judged := by cases judged
  foldingCase _ folded := by cases folded
  leaves := Correspondence.leafwise_empty

/-- A slice cursor is at or after another one and not beyond the last item, and takes
only items that are there. -/
structure Onward (items : Array ι) (s r : SliceCursor ι) : Prop where
  ofItems : r.items = items
  sameItems : r.items = s.items
  sameComparison : r.agrees = s.agrees
  forward : s.index ≤ r.index
  inside : r.index ≤ items.size
  taking : ∀ item, ∀ taken ∈ r.take? item,
    taken.2.index = r.index + 1 ∧ r.index + 1 ≤ items.size

theorem parse_onward [Item ι] (items : Array ι) (agrees : ι → ι → Bool)
    (commands : List (Rules ι Empty × Command (SliceCursor ι) ι Empty Unit))
    {entry : Register (SliceCursor ι)}
    (member : entry ∈ (Session.opened ⟨.start items agrees, ()⟩ commands).registers)
    (own : entry.input = 0) (rules : Rules ι Empty) (grammar : Grammar ι Empty)
    (depth : Nat) :
    Onward items entry.cursor
      (grammar.parse rules entry.cursor ⟨(), depth⟩).value.remaining := by
  have first : (onward items agrees 0).cursors (.start items agrees) :=
    ⟨rfl, rfl, Nat.le_refl 0, Nat.zero_le _⟩
  have reached : (Session.opened ⟨.start items agrees, ()⟩ commands).Holds 0
      (onward items agrees 0) :=
    Session.holds_opened (onward_observed items agrees) first trivial commands
  obtain ⟨sameItems, sameComparison, _, within⟩ := reached.cursors entry member own
  have here : (onward items agrees entry.cursor.index).cursors entry.cursor :=
    ⟨sameItems, sameComparison, Nat.le_refl _, within⟩
  obtain ⟨⟨restItems, restComparison, forward, inside⟩, _⟩ :=
    Invariant.parse Correspondence.leafwise_empty rules grammar here ⟨(), depth⟩ trivial
  refine ⟨restItems, restItems.trans sameItems.symm,
    restComparison.trans sameComparison.symm, forward, inside, ?_⟩
  intro item taken success
  obtain ⟨moved, present⟩ := of_take? success
  rw [restItems] at present
  exact ⟨by rw [moved], present⟩

end SliceCursor

/-- Parses stay inside their input, from every cursor that a session can reach. -/
theorem parse_stays_inside :
    (∀ (input : String) (options : TextOptions)
        (commands : List (Rules String TextLeaf × Command TextCursor String TextLeaf Unit)),
      ∀ entry ∈ (Session.opened ⟨.start input options, ()⟩ commands).registers,
        entry.input = 0 → ∀ (rules : Rules String TextLeaf) (grammar : Grammar String TextLeaf)
          (depth : Nat),
          TextCursor.Onward input entry.cursor
            (grammar.parse rules entry.cursor ⟨(), depth⟩).value.remaining) ∧
      (∀ (source : TokenSource) (caseInsensitive : Bool)
          (commands :
            List (Rules String TextLeaf × Command TokenCursor String TextLeaf TokenBuffer)),
        let session := Session.opened ⟨⟨0, caseInsensitive⟩, .fresh source⟩ commands
        ∃ buffer, session.inputs[0]? = some buffer ∧ ∀ entry ∈ session.registers,
          entry.input = 0 → ∀ (rules : Rules String TextLeaf) (grammar : Grammar String TextLeaf)
            (depth : Nat),
            let step := grammar.parse rules entry.cursor ⟨buffer, depth⟩
            TokenCursor.Onward source.given entry.cursor step.value.remaining
              step.context.shared) ∧
      ∀ (ι : Type) [Item ι] (items : Array ι) (agrees : ι → ι → Bool)
          (commands : List (Rules ι Empty × Command (SliceCursor ι) ι Empty Unit)),
        ∀ entry ∈ (Session.opened ⟨.start items agrees, ()⟩ commands).registers,
          entry.input = 0 → ∀ (rules : Rules ι Empty) (grammar : Grammar ι Empty)
            (depth : Nat),
            SliceCursor.Onward items entry.cursor
              (grammar.parse rules entry.cursor ⟨(), depth⟩).value.remaining := by
  refine ⟨?_, ?_, ?_⟩
  · intro input options commands entry member own
    exact TextCursor.parse_onward input options commands member own
  · intro source caseInsensitive commands
    exact TokenCursor.parse_onward source caseInsensitive commands
  · intro ι _ items agrees commands entry member own
    exact SliceCursor.parse_onward items agrees commands member own

end Descent
