import Descent.Cursor.Slice
import Descent.Proofs.Correspondence.Symbols
import Descent.Proofs.Cursor.Text

/-!
# Unread input

What has been read before a parse starts does not show in it.  A text or an array that
stands behind another one is parsed as if it stood alone: the outcome is the same, and
the place where the parse comes to rest is shifted by what was read.
-/

namespace Descent

variable {ι κ : Type}

/-- Whether a node of a grammar yields a position. -/
def Grammar.tellsPosition : Grammar ι κ → Bool
  | .here _ => true
  | _ => false

/-- A correspondence that allows all items keeps grammars that yield no position. -/
theorem Correspondence.parse_alike_of_untold {σ τ ω υ : Type} [Cursor σ ι ω] [Cursor τ ι υ]
    [Item ι] [Leaves κ σ ω] [Leaves κ τ υ] {c : Correspondence σ τ} (leaves : c.Leafwise κ)
    (expects : ∀ item, c.expects item) {rules : Rules ι κ} {grammar : Grammar ι κ}
    (untold : ∀ part ∈ grammar.parts ++ rules.parts, part.tellsPosition = false) {s : σ} {t : τ}
    (there : c.cursors s t) :
    c.Runs 0 c.Outcomes (grammar.parse rules s) (grammar.parse rules t) := by
  have admitted : ∀ part ∈ grammar.parts ++ rules.parts, c.Admits part := by
    intro part member
    cases part with
    | exact item => exact expects item
    | here label => cases untold _ member
    | _ => trivial
  rw [List.forall_mem_append] at admitted
  exact parse_alike leaves rules grammar admitted.1 admitted.2 there

namespace TextCursor

/-- The first cursor stands in a text behind what was read, the second one at the same
place of the text alone. -/
structure Behind (read text : String) (s t : TextCursor) : Prop where
  input : s.input = read ++ text
  alone : t.input = text
  sameOptions : s.options = t.options
  sameRest : s.rest = t.rest
  shifted : s.offset = read.utf8ByteSize + t.offset

namespace Behind

variable {read text : String} {s t : TextCursor}

theorem start (read text : String) (options : TextOptions) :
    Behind read text
      ⟨read ++ text, read.utf8ByteSize, options, Text.boundary_append read text⟩
      (.start text options) where
  input := rfl
  alone := rfl
  sameOptions := rfl
  sameRest := by
    rw [← ofList_unread, ← ofList_unread, start_unread]
    apply congrArg String.ofList
    have split : (read ++ text).toList = read.toList ++ text.toList := String.toList_append
    exact unread_of_split split (Text.byteCount_toList read).symm
  shifted := rfl

theorem unread (there : Behind read text s t) : s.unread = t.unread :=
  congrArg String.toList there.sameRest

theorem pass (there : Behind read text s t) (count : Nat) :
    Placed (Behind read text) (s.pass count) (t.pass count) := by
  have taken : (s.pass count).1 = (t.pass count).1 := by
    rw [pass_fst, pass_fst, there.unread]
  refine .of_eq taken ⟨there.input, there.alone, there.sameOptions, ?_, ?_⟩
  · rw [← ofList_unread, ← ofList_unread, pass_unread, pass_unread, there.unread]
  · simp only [pass_offset, there.shifted, there.unread, Nat.add_assoc]

theorem take (there : Behind read text s t) (expected : String) :
    Option.Rel (Placed (Behind read text)) (s.take? expected) (t.take? expected) := by
  have starts : s.startsWith expected.toList = t.startsWith expected.toList := by
    simp only [startsWith, there.unread, there.sameOptions]
  rw [take?_eq, take?_eq, starts]
  split
  · exact .some (there.pass _)
  · exact .none

theorem takeSymbol (there : Behind read text s t) (accept : Char → Bool) :
    Option.Rel (Placed (Behind read text)) (s.takeSymbol? accept) (t.takeSymbol? accept) := by
  rw [takeSymbol?_eq, takeSymbol?_eq, there.unread]
  split
  · exact .some (there.pass 1)
  · exact .none

theorem atEnd (there : Behind read text s t) (shared : Unit) :
    (Cursor.atEnd s shared).1 = (Cursor.atEnd t shared).1 := by
  rw [atEnd_eq, atEnd_eq, there.unread]

theorem peek (there : Behind read text s t) : s.peek? = t.peek? := by
  rw [peek?_eq, peek?_eq, there.unread]

end Behind

/-- A text behind another one corresponds to the text alone. -/
def shifting (read text : String) : Correspondence TextCursor TextCursor where
  cursors := Behind read text
  shared _ _ := True
  journals := .unrestricted
  expects _ := True
  tellsPositions := False
  atEnd there _ _ _ := ⟨there.atEnd _, trivial⟩
  peek there _ _ _ := ⟨⟨there.peek, fun _ _ => trivial⟩, trivial⟩
  take _ there _ _ _ := ⟨there.take _, trivial⟩
  entryPositions _ := trivial
  progress before later := by
    simp only [Cursor.position, before.shifted, later.shifted, Nat.add_left_cancel_iff]
  samePositions told := told.elim

theorem shifting_symbolic (read text : String) : (shifting read text).Symbolic where
  takeSymbol there accept _ _ _ := ⟨there.takeSymbol accept, trivial⟩
  marks _ _ := trivial

end TextCursor

namespace SliceCursor

/-- The first cursor stands in an array behind what was read, the second one at the same
place of the array alone. -/
structure Behind (read items : Array ι) (s t : SliceCursor ι) : Prop where
  input : s.items = read ++ items
  alone : t.items = items
  sameComparison : s.agrees = t.agrees
  sameRest : s.rest = t.rest
  shifted : s.index = read.size + t.index

namespace Behind

variable {read items : Array ι} {s t : SliceCursor ι}

theorem at_index (read items : Array ι) (agrees : ι → ι → Bool) (index : Nat) :
    Behind read items ⟨read ++ items, read.size + index, agrees⟩ ⟨items, index, agrees⟩ := by
  refine ⟨rfl, rfl, rfl, ?_, rfl⟩
  simp [rest, List.drop_append]

theorem exists_index (there : Behind read items s t) :
    ∃ index agrees,
      s = ⟨read ++ items, read.size + index, agrees⟩ ∧ t = ⟨items, index, agrees⟩ := by
  obtain ⟨input, alone, sameComparison, _, shifted⟩ := there
  refine ⟨t.index, t.agrees, ?_, ?_⟩
  · rw [← input, ← shifted, ← sameComparison]
  · rw [← alone]

theorem atEnd (there : Behind read items s t) :
    decide (s.items.size ≤ s.index) = decide (t.items.size ≤ t.index) := by
  obtain ⟨index, agrees, rfl, rfl⟩ := there.exists_index
  simp

theorem current (there : Behind read items s t) : s.current? = t.current? := by
  obtain ⟨index, agrees, rfl, rfl⟩ := there.exists_index
  simp [current?, Array.getElem?_append]

theorem take (there : Behind read items s t) (expected : ι) :
    Option.Rel (Placed (Behind read items)) (s.take? expected) (t.take? expected) := by
  have same := there.current
  obtain ⟨index, agrees, rfl, rfl⟩ := there.exists_index
  have next := at_index read items agrees (index + 1)
  rw [take?, take?, same]
  split
  · split
    · exact .some (.same next)
    · exact .none
  · exact .none

end Behind

/-- An array behind another one corresponds to the array alone. -/
def shifting (read items : Array ι) : Correspondence (SliceCursor ι) (SliceCursor ι) where
  cursors := Behind read items
  shared _ _ := True
  journals := .unrestricted
  expects _ := True
  tellsPositions := False
  atEnd there _ _ _ := ⟨there.atEnd, trivial⟩
  peek there _ _ _ := ⟨⟨there.current, fun _ _ => trivial⟩, trivial⟩
  take _ there _ _ _ := ⟨there.take _, trivial⟩
  entryPositions _ := trivial
  progress before later := by
    simp only [Cursor.position, before.shifted, later.shifted, Nat.add_left_cancel_iff]
  samePositions told := told.elim

end SliceCursor

/-- Grammars that do not ask for positions come to the same from a place in a text or in an
array as from the beginning of what is unread there, and come to rest as much further on
as was read before. -/
theorem parse_of_unread :
    (∀ {rules : Rules String TextLeaf} {grammar : Grammar String TextLeaf},
      (∀ part ∈ grammar.parts ++ rules.parts, part.tellsPosition = false) →
        ∀ (read text : String) (options : TextOptions) (depth : Nat),
          let s : TextCursor :=
            ⟨read ++ text, read.utf8ByteSize, options, Text.boundary_append read text⟩
          Outcome.Alike (TextCursor.Behind read text) (grammar.parse rules s ⟨(), depth⟩).value
            (grammar.parse rules (TextCursor.start text options) ⟨(), depth⟩).value) ∧
      ∀ (ι : Type) [Item ι] {rules : Rules ι Empty} {grammar : Grammar ι Empty},
        (∀ part ∈ grammar.parts ++ rules.parts, part.tellsPosition = false) →
          ∀ (read items : Array ι) (agrees : ι → ι → Bool) (depth : Nat),
            let s : SliceCursor ι := ⟨read ++ items, read.size, agrees⟩
            Outcome.Alike (SliceCursor.Behind read items) (grammar.parse rules s ⟨(), depth⟩).value
              (grammar.parse rules (SliceCursor.start items agrees) ⟨(), depth⟩).value := by
  refine ⟨?_, ?_⟩
  · intro rules grammar untold read text options depth s
    have leaves := (TextCursor.shifting_symbolic read text).leafwise
    have runs := Correspondence.parse_alike_of_untold leaves (fun _ => trivial) untold
      (TextCursor.Behind.start read text options)
    exact (runs depth (Nat.zero_le _) () () trivial).value
  · intro ι _ rules grammar untold read items agrees depth s
    have runs := Correspondence.parse_alike_of_untold (c := SliceCursor.shifting read items)
      Correspondence.leafwise_empty (fun _ => trivial) untold
      (SliceCursor.Behind.at_index read items agrees 0)
    exact (runs depth (Nat.zero_le _) () () trivial).value

/-- Numbers in nested brackets behind accented letters of four bytes, up to a bracket that is
not closed. -/
theorem parse_of_unread_brackets :
    let rules : Rules String TextLeaf :=
      [("list", .between (.exact "[") (.exact "]")
        (.separated (.exact ",") (.firstOf [.leaf .number, .deferred "INNER" "list" .standard])
          .standard))]
    let grammar : Grammar String TextLeaf := .many1 (.rule "list") .standard
    (∀ part ∈ grammar.parts ++ rules.parts, part.tellsPosition = false) ∧
      Outcome.Alike (TextCursor.Behind "éé" "[1,[-2.5]][É")
        (grammar.parse rules (⟨"éé[1,[-2.5]][É", 4, ⟨true⟩, by decide⟩ : TextCursor)
          ⟨(), 0⟩).value
        (grammar.parse rules (TextCursor.start "[1,[-2.5]][É" ⟨true⟩) ⟨(), 0⟩).value ∧
      (grammar.parse rules (⟨"éé[1,[-2.5]][É", 4, ⟨true⟩, by decide⟩ : TextCursor)
          ⟨(), 0⟩).value =
        .success (.list [.list [.float 0x3FF0000000000000, .list [.float 0xC004000000000000]]])
          ⟨"éé[1,[-2.5]][É", 14, ⟨true⟩, by decide⟩ ∧
      (grammar.parse rules (TextCursor.start "[1,[-2.5]][É" ⟨true⟩) ⟨(), 0⟩).value =
        .success (.list [.list [.float 0x3FF0000000000000, .list [.float 0xC004000000000000]]])
          ⟨"[1,[-2.5]][É", 10, ⟨true⟩, by decide⟩ :=
  ⟨by decide, parse_of_unread.1 (by decide) "éé" "[1,[-2.5]][É" ⟨true⟩ 0, by decide +kernel,
    by decide +kernel⟩

end Descent
