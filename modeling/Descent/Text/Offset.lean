/-!
# Byte offsets

A text is cut at byte offsets.  An offset cuts a text only if it stands between two of its
characters, or at its beginning or end; where another one was asked for, there would be no
slice.  So a slice asks for a proof that both its ends cut the text and stand in order, and
whoever looks for a place to cut at proves that the offset found is one.
-/

namespace Descent.Text

/-- An offset that is not beyond the end of a text and splits no character. -/
abbrev Boundary (text : String) (offset : Nat) : Prop :=
  (⟨offset⟩ : String.Pos.Raw).IsValid text

/-- Two offsets that a text can be sliced at. -/
structure Sliceable (text : String) (first last : Nat) : Prop where
  ordered : first ≤ last
  first : Boundary text first
  last : Boundary text last

/-- The part of a text from one byte offset to another. -/
def slice (text : String) (first last : Nat) (_ : Sliceable text first last) : String :=
  String.Pos.Raw.extract text ⟨first⟩ ⟨last⟩

/-- The character at an offset, if one begins there. -/
def charAt? (text : String) (offset : Nat) : Option Char :=
  (⟨offset⟩ : String.Pos.Raw).get? text

/-- Whether characters stand in a text from an offset on. -/
def standsAt (text : String) (offset : Nat) : List Char → Bool
  | [] => true
  | c :: later => charAt? text offset == some c && standsAt text (offset + c.utf8Size) later

/-- How many bytes there are from an offset to the end of the character with the given number,
where the characters from a later index on are counted. -/
def lengthThrough? (text : String) (offset index : Nat) : Nat → Option Nat
  | 0 => (charAt? text (offset + index)).map (index + ·.utf8Size)
  | number + 1 => (charAt? text (offset + index)).bind fun c =>
      lengthThrough? text offset (index + c.utf8Size) number

variable {text : String} {offset : Nat}

theorem sliceable_self (here : Boundary text offset) : Sliceable text offset offset :=
  ⟨Nat.le_refl offset, here, here⟩

theorem sliceable_end (here : Boundary text offset) :
    Sliceable text offset text.utf8ByteSize :=
  ⟨here.le_utf8ByteSize, here, String.Pos.Raw.isValid_rawEndPos⟩

/-- A character that is found at a position stands behind characters with as many bytes. -/
theorem exists_of_utf8GetAux? {cs : List Char} {start position : String.Pos.Raw} {c : Char}
    (found : String.Pos.Raw.utf8GetAux? cs start position = some c) :
    ∃ read later, cs = read ++ c :: later ∧
      position.byteIdx = start.byteIdx + (String.ofList read).utf8ByteSize := by
  induction cs generalizing start with
  | nil => cases found
  | cons first others ih =>
      change (if start = position then some first
        else String.Pos.Raw.utf8GetAux? others (start + first) position) = some c at found
      split at found
      · next here =>
          obtain rfl := Option.some.inj found
          exact ⟨[], others, rfl, congrArg String.Pos.Raw.byteIdx here.symm⟩
      · obtain ⟨read, later, rfl, bytes⟩ := ih found
        refine ⟨first :: read, later, rfl, ?_⟩
        rw [bytes, String.Pos.Raw.byteIdx_add_char, String.ofList_cons, Nat.add_assoc]
        simp

/-- Where a character ends, a text can be cut. -/
theorem boundary_charAt? {c : Char} (found : charAt? text offset = some c) :
    Boundary text (offset + c.utf8Size) := by
  obtain ⟨read, later, spelled, bytes⟩ := exists_of_utf8GetAux? found
  refine String.Pos.Raw.isValid_iff_exists_append.mpr
    ⟨String.ofList (read ++ [c]), String.ofList later, ?_, ?_⟩
  · rw [← String.ofList_append, List.append_assoc, List.singleton_append, ← spelled,
      String.ofList_toList]
  · have here : offset = (String.ofList read).utf8ByteSize := by simpa using bytes
    apply String.Pos.Raw.ext
    rw [String.ofList_append, String.byteIdx_rawEndPos, String.utf8ByteSize_append, ← here]
    simp only [String.ofList_cons, String.ofList_nil, String.append_empty,
      String.utf8ByteSize_singleton]

theorem sliceable_charAt? {c : Char} (here : Boundary text offset)
    (found : charAt? text offset = some c) : Sliceable text offset (offset + c.utf8Size) :=
  ⟨Nat.le_add_right _ _, here, boundary_charAt? found⟩

theorem boundary_lengthThrough? {index number length : Nat}
    (found : lengthThrough? text offset index number = some length) :
    Boundary text (offset + length) := by
  induction number generalizing index with
  | zero =>
      obtain ⟨c, there, rfl⟩ := Option.map_eq_some_iff.mp found
      rw [← Nat.add_assoc]
      exact boundary_charAt? there
  | succ number ih =>
      obtain ⟨c, _, onward⟩ := Option.bind_eq_some_iff.mp found
      exact ih onward

theorem sliceable_lengthThrough? {index number length : Nat} (here : Boundary text offset)
    (found : lengthThrough? text offset index number = some length) :
    Sliceable text offset (offset + length) :=
  ⟨Nat.le_add_right _ _, here, boundary_lengthThrough? found⟩

theorem boundary_standsAt {cs : List Char} (here : Boundary text offset)
    (stands : standsAt text offset cs = true) :
    Boundary text (offset + (String.ofList cs).utf8ByteSize) := by
  induction cs generalizing offset with
  | nil => exact here
  | cons c later ih =>
      rw [standsAt, Bool.and_eq_true, beq_iff_eq] at stands
      have onward := ih (boundary_charAt? stands.1) stands.2
      rw [String.ofList_cons]
      simpa [Nat.add_assoc] using onward

theorem sliceable_standsAt {expected : String} (here : Boundary text offset)
    (stands : standsAt text offset expected.toList = true) :
    Sliceable text offset (offset + expected.utf8ByteSize) := by
  have last := boundary_standsAt here stands
  rw [String.ofList_toList] at last
  exact ⟨Nat.le_add_right _ _, here, last⟩

end Descent.Text
