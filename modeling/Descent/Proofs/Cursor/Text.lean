import Descent.Cursor.Text
import Descent.Proofs.Text.Offset

/-!
# Places in a text

A cursor splits its text into the characters that were read and those that are unread, and
answers every query as it would by looking at the unread ones.  Every cursor stands after a
number of characters of its text, and no two numbers up to the length of the text have one
offset.
-/

namespace Descent.TextCursor

open Text (byteCount byteCount_append byteCount_eq_zero byteCount_eq_utf8ByteSize
  byteCount_toList byteCount_take_inj)

/-- The characters after a place. -/
def unread (s : TextCursor) : List Char := s.rest.toList

theorem rest_of_split {s : TextCursor} {read later : List Char}
    (split : s.input.toList = read ++ later) (bytes : s.offset = byteCount read) :
    s.rest = String.ofList later := by
  have size : s.input.utf8ByteSize = byteCount read + byteCount later := by
    rw [← byteCount_toList, split, byteCount_append]
  have whole : s.input.toList = read ++ (later ++ []) := by rw [split, List.append_nil]
  exact Text.slice_of_split whole _ bytes size

theorem unread_of_split {s : TextCursor} {read later : List Char}
    (split : s.input.toList = read ++ later) (bytes : s.offset = byteCount read) :
    s.unread = later := by
  rw [unread, rest_of_split split bytes, String.toList_ofList]

/-- The unread characters follow as many bytes as the offset says. -/
theorem exists_read (s : TextCursor) :
    ∃ read, s.input.toList = read ++ s.unread ∧ s.offset = byteCount read := by
  obtain ⟨count, bytes⟩ := String.Pos.Raw.isValid_iff_exists_take_toList.mp s.boundary
  rw [← byteCount_eq_utf8ByteSize] at bytes
  have split := (List.take_append_drop count s.input.toList).symm
  refine ⟨s.input.toList.take count, ?_, bytes⟩
  rw [unread_of_split split bytes]
  exact split

theorem ofList_unread (s : TextCursor) : String.ofList s.unread = s.rest := String.ofList_toList

/-- A text is at its end where nothing is unread. -/
theorem ended_iff {s : TextCursor} : s.input.utf8ByteSize ≤ s.offset ↔ s.unread = [] := by
  obtain ⟨read, split, bytes⟩ := s.exists_read
  have size : s.input.utf8ByteSize = byteCount read + byteCount s.unread := by
    rw [← byteCount_toList, split, byteCount_append]
  constructor
  · intro ended
    exact byteCount_eq_zero (by omega)
  · intro empty
    rw [size, empty, bytes]
    exact Nat.le_refl _

theorem atEnd_eq (s : TextCursor) (shared : Unit) :
    Cursor.atEnd s shared = (s.unread.isEmpty, shared) := by
  have agree : decide (s.input.utf8ByteSize ≤ s.offset) = s.unread.isEmpty := by
    rw [Bool.eq_iff_iff, decide_eq_true_iff, List.isEmpty_iff]
    exact ended_iff
  exact congrArg (·, shared) agree

theorem atEnd_iff {s : TextCursor} : (Cursor.atEnd s ()).1 = true ↔ s.unread = [] := by
  rw [atEnd_eq]
  exact List.isEmpty_iff

theorem charAt?_eq (s : TextCursor) : Text.charAt? s.input s.offset = s.unread.head? := by
  obtain ⟨read, split, bytes⟩ := s.exists_read
  rw [bytes]
  exact Text.charAt?_of_split split

theorem standsAt_eq (s : TextCursor) (expected : List Char) :
    Text.standsAt s.input s.offset expected = expected.isPrefixOf s.unread := by
  obtain ⟨read, split, bytes⟩ := s.exists_read
  rw [bytes]
  exact Text.standsAt_of_split split expected

theorem lengthThrough?_eq (s : TextCursor) (number : Nat) :
    Text.lengthThrough? s.input s.offset 0 number =
      if number < s.unread.length then some (byteCount (s.unread.take (number + 1))) else none := by
  obtain ⟨read, split, bytes⟩ := s.exists_read
  have whole : s.input.toList = read ++ ([] ++ s.unread) := split
  rw [bytes]
  exact Text.lengthThrough?_of_split whole number

/-- After any number of the unread characters the text can be cut. -/
theorem sliceable_take (s : TextCursor) (count : Nat) :
    Text.Sliceable s.input s.offset (s.offset + byteCount (s.unread.take count)) := by
  obtain ⟨read, split, bytes⟩ := s.exists_read
  refine ⟨Nat.le_add_right _ _, s.boundary, ?_⟩
  rw [bytes, ← byteCount_append]
  have further : s.input.toList = (read ++ s.unread.take count) ++ s.unread.drop count := by
    rw [List.append_assoc, List.take_append_drop, split]
  exact Text.boundary_of_split further

theorem slice_take (s : TextCursor) (count : Nat)
    (inside : Text.Sliceable s.input s.offset (s.offset + byteCount (s.unread.take count))) :
    Text.slice s.input s.offset (s.offset + byteCount (s.unread.take count)) inside =
      String.ofList (s.unread.take count) := by
  obtain ⟨read, split, bytes⟩ := s.exists_read
  rw [← List.take_append_drop count s.unread] at split
  exact Text.slice_of_split split inside bytes (congrArg (· + _) bytes)

/-- Consumes a number of characters. -/
def pass (s : TextCursor) (count : Nat) : String × TextCursor :=
  s.advance (byteCount (s.unread.take count)) (s.sliceable_take count)

theorem advance_eq_pass {s : TextCursor} {length count : Nat}
    (inside : Text.Sliceable s.input s.offset (s.offset + length))
    (bytes : length = byteCount (s.unread.take count)) :
    s.advance length inside = s.pass count := by
  subst bytes
  rfl

@[simp]
theorem pass_fst (s : TextCursor) (count : Nat) :
    (s.pass count).1 = String.ofList (s.unread.take count) :=
  s.slice_take count (s.sliceable_take count)

@[simp]
theorem pass_input (s : TextCursor) (count : Nat) : (s.pass count).2.input = s.input := rfl

@[simp]
theorem pass_options (s : TextCursor) (count : Nat) : (s.pass count).2.options = s.options := rfl

@[simp]
theorem pass_offset (s : TextCursor) (count : Nat) :
    (s.pass count).2.offset = s.offset + byteCount (s.unread.take count) := rfl

@[simp]
theorem pass_unread (s : TextCursor) (count : Nat) :
    (s.pass count).2.unread = s.unread.drop count := by
  obtain ⟨read, split, bytes⟩ := s.exists_read
  have further : (s.pass count).2.input.toList =
      (read ++ s.unread.take count) ++ s.unread.drop count := by
    rw [List.append_assoc, List.take_append_drop]
    exact split
  refine unread_of_split further ?_
  rw [pass_offset, byteCount_append, bytes]

theorem pass_zero (s : TextCursor) : s.pass 0 = ("", s) :=
  Prod.ext (s.pass_fst 0) (TextCursor.ext rfl rfl rfl)

theorem offset_le_pass (s : TextCursor) (count : Nat) : s.offset ≤ (s.pass count).2.offset :=
  Nat.le_add_right _ _

/-- What is passed, followed by what is left, is what was there before. -/
theorem pass_rest (s : TextCursor) (count : Nat) :
    (s.pass count).1 ++ (s.pass count).2.rest = s.rest := by
  rw [← ofList_unread, ← ofList_unread, pass_fst, pass_unread, ← String.ofList_append,
    List.take_append_drop]

/-- The cursor after a number of characters of a text. -/
def after (input : String) (options : TextOptions) (count : Nat) : TextCursor :=
  ⟨input, byteCount (input.toList.take count), options,
    Text.boundary_of_split (List.take_append_drop count input.toList).symm⟩

theorem start_eq_after (input : String) (options : TextOptions) :
    start input options = after input options 0 := rfl

theorem after_offset (input : String) (options : TextOptions) (count : Nat) :
    (after input options count).offset = byteCount (input.toList.take count) := rfl

@[simp]
theorem after_unread (input : String) (options : TextOptions) (count : Nat) :
    (after input options count).unread = input.toList.drop count :=
  unread_of_split (List.take_append_drop count input.toList).symm rfl

@[simp]
theorem start_unread (input : String) (options : TextOptions) :
    (start input options).unread = input.toList :=
  after_unread input options 0

/-- The end of any number of further characters is the offset of a later place. -/
theorem offset_after_add (input : String) (options : TextOptions) (count further : Nat) :
    (after input options count).offset + byteCount ((input.toList.drop count).take further) =
      (after input options (count + further)).offset := by
  simp only [after_offset, List.take_add, byteCount_append]

theorem pass_after (input : String) (options : TextOptions) (count further : Nat) :
    (after input options count).pass further =
      (String.ofList ((input.toList.drop count).take further),
        after input options (count + further)) := by
  apply Prod.ext
  · rw [pass_fst, after_unread]
  · apply TextCursor.ext
    · rfl
    · rw [pass_offset, after_unread]
      exact offset_after_add input options count further
    · rfl

/-- The end of a text. -/
def finish (input : String) (options : TextOptions) : TextCursor :=
  ⟨input, input.utf8ByteSize, options, String.Pos.Raw.isValid_rawEndPos⟩

theorem finish_unread (input : String) (options : TextOptions) :
    (finish input options).unread = [] :=
  ended_iff.mp (Nat.le_refl input.utf8ByteSize)

theorem offset_after_inj {input : String} {options : TextOptions} {first second : Nat}
    (firstWithin : first ≤ input.toList.length) (secondWithin : second ≤ input.toList.length) :
    (after input options first).offset = (after input options second).offset ↔
      first = second := by
  constructor
  · intro same
    rcases Nat.le_total first second with ordered | ordered
    · exact byteCount_take_inj ordered secondWithin same
    · exact (byteCount_take_inj ordered firstWithin same.symm).symm
  · intro same
    rw [same]

theorem offset_after_mono {input : String} {options : TextOptions} {first second : Nat}
    (ordered : first ≤ second) :
    (after input options first).offset ≤ (after input options second).offset := by
  obtain ⟨further, rfl⟩ := Nat.le.dest ordered
  rw [← offset_after_add]
  exact Nat.le_add_right _ _

/-- What is unread is the text from the offset on. -/
theorem exists_append_rest (s : TextCursor) :
    ∃ read, read ++ s.rest = s.input ∧ read.utf8ByteSize = s.offset := by
  obtain ⟨read, split, bytes⟩ := s.exists_read
  refine ⟨String.ofList read, ?_, ?_⟩
  · rw [← s.ofList_unread, ← String.ofList_append, ← split, String.ofList_toList]
  · rw [bytes, byteCount_eq_utf8ByteSize]

/-- Whether the unread characters start with the expected ones under the options. -/
def startsWith (s : TextCursor) (expected : List Char) : Bool :=
  if s.options.caseInsensitive then
    let candidate := s.unread.take expected.length
    candidate.length == expected.length && Unicode.foldEq candidate expected
  else
    expected.isPrefixOf s.unread

theorem startsWith_nil (s : TextCursor) : s.startsWith [] = true := by
  unfold startsWith
  split <;> simp [Unicode.foldEq_refl]

theorem matchLength?_of_exact {s : TextCursor} (exact : s.options.caseInsensitive = false)
    (expected : String) :
    s.matchLength? expected =
      if expected.toList.isPrefixOf s.unread then
        some (byteCount (s.unread.take expected.toList.length))
      else none := by
  rw [matchLength?, exact, if_neg Bool.false_ne_true, s.standsAt_eq]
  split
  · next stands =>
      obtain ⟨later, spelled⟩ := List.isPrefixOf_iff_prefix.mp stands
      rw [← spelled, List.take_left, byteCount_toList]
  · rfl

/-- The scan for the end of as many characters as are expected finds it if there are so many. -/
theorem matchLength?_of_ignoring {s : TextCursor} (ignoring : s.options.caseInsensitive = true)
    {expected : String} {number : Nat} (length : expected.toList.length = number + 1) :
    s.matchLength? expected =
      if number < s.unread.length ∧
          Unicode.foldEq (s.unread.take (number + 1)) expected.toList = true then
        some (byteCount (s.unread.take (number + 1)))
      else none := by
  have through := s.lengthThrough?_eq number
  rw [String.length_toList] at length
  rw [matchLength?, if_pos ignoring, length]
  dsimp only
  by_cases enough : number < s.unread.length
  · rw [if_pos enough] at through
    simp only [through, Option.pmap_some, Option.join_some, foldsTo?, s.slice_take,
      String.toList_ofList, enough, true_and]
  · rw [if_neg enough] at through
    simp only [through, Option.pmap_none, Option.join_none, enough, false_and, if_false]

/-- The bytes that match are those of as many characters as are expected. -/
theorem matchLength?_eq {s : TextCursor} {expected : String} (filled : expected ≠ "") :
    s.matchLength? expected =
      if s.startsWith expected.toList then
        some (byteCount (s.unread.take expected.toList.length))
      else none := by
  cases folding : s.options.caseInsensitive with
  | false =>
      rw [matchLength?_of_exact folding, startsWith, folding, if_neg Bool.false_ne_true]
  | true =>
      have positive : expected.toList.length ≠ 0 := by
        rw [Ne, List.length_eq_zero_iff, String.toList_eq_nil_iff]
        exact filled
      obtain ⟨number, length⟩ := Nat.exists_eq_succ_of_ne_zero positive
      have enough : (s.unread.take (number + 1)).length = number + 1 ↔
          number < s.unread.length := by
        rw [List.length_take]
        omega
      rw [matchLength?_of_ignoring folding length, startsWith, if_pos folding, length]
      simp only [Nat.succ_eq_add_one, Bool.and_eq_true, beq_iff_eq, enough]

theorem take?_eq (s : TextCursor) (expected : String) :
    s.take? expected =
      if s.startsWith expected.toList then some (s.pass expected.toList.length) else none := by
  unfold take?
  split
  · next blank =>
      obtain rfl := String.isEmpty_iff.mp blank
      rw [String.toList_empty, if_pos s.startsWith_nil]
      exact congrArg some (s.advance_eq_pass _ rfl)
  · next filled =>
      have found := matchLength?_eq (s := s) (mt String.isEmpty_iff.mpr filled)
      split
      · next starts =>
          rw [if_pos starts] at found
          simp only [found, Option.pmap_some]
          exact congrArg some (s.advance_eq_pass _ rfl)
      · next starts =>
          rw [if_neg starts] at found
          simp only [found, Option.pmap_none]

/-- Whatever is taken is what comes next in the text. -/
theorem of_take? {s : TextCursor} {expected : String} {taken : String × TextCursor}
    (success : s.take? expected = some taken) : taken = s.pass expected.toList.length := by
  rw [take?_eq] at success
  exact (Option.some.inj (Option.ite_none_right_eq_some.mp success).2).symm

theorem peek?_eq (s : TextCursor) : s.peek? = s.unread.head?.map String.singleton := by
  rw [peek?, charAt?_eq]

theorem takeSymbol?_eq (s : TextCursor) (accept : Char → Bool) :
    s.takeSymbol? accept =
      if s.unread.head?.any accept then some (s.pass 1) else none := by
  have found := s.charAt?_eq
  unfold takeSymbol?
  cases unread : s.unread with
  | nil =>
      rw [unread] at found
      simp [found]
  | cons c later =>
      rw [unread, List.head?_cons] at found
      by_cases accepted : accept c = true
      · have judged : (Text.charAt? s.input s.offset).filter accept = some c := by
          simp [found, accepted]
        simp only [judged, Option.pmap_some, List.head?_cons, Option.any_some, accepted, if_true]
        exact congrArg some (s.advance_eq_pass _ (by simp [unread, byteCount]))
      · have judged : (Text.charAt? s.input s.offset).filter accept = none := by
          simp [found, accepted]
        simp [judged, accepted]

theorem of_takeSymbol? {s : TextCursor} {accept : Char → Bool} {taken : String × TextCursor}
    (success : s.takeSymbol? accept = some taken) : taken = s.pass 1 := by
  rw [takeSymbol?_eq] at success
  exact (Option.some.inj (Option.ite_none_right_eq_some.mp success).2).symm

theorem exists_after_of_take? {input : String} {options : TextOptions} {count : Nat}
    {expected : String} {taken : String × TextCursor}
    (success : (after input options count).take? expected = some taken) :
    ∃ further, taken.2 = after input options (count + further) := by
  rw [of_take? success, pass_after]
  exact ⟨expected.toList.length, rfl⟩

theorem takeSymbol?_after (input : String) (options : TextOptions) (count : Nat)
    (accept : Char → Bool) :
    (after input options count).takeSymbol? accept =
      (input.toList[count]?.filter accept).map fun c =>
        (String.singleton c, after input options (count + 1)) := by
  rw [takeSymbol?_eq, pass_after, after_unread, ← List.head?_drop]
  cases input.toList.drop count with
  | nil => rfl
  | cons c rest =>
      by_cases accepted : accept c = true
      · simp [Option.filter, accepted]
      · simp [Option.filter, accepted]

/-- Whether a cursor with the given options takes a character for an expected one. -/
def agrees (options : TextOptions) (expected actual : Char) : Bool :=
  if options.caseInsensitive then Unicode.foldEq [actual] [expected] else actual == expected

/-- An expected text of one character is matched character by character. -/
theorem take?_singleton (s : TextCursor) (expected : Char) :
    s.take? (String.singleton expected) = s.takeSymbol? (agrees s.options expected) := by
  have starts : s.startsWith [expected] =
      s.unread.head?.any (agrees s.options expected) := by
    unfold startsWith agrees
    cases s.unread with
    | nil => by_cases folding : s.options.caseInsensitive <;> simp [folding]
    | cons c rest =>
        by_cases folding : s.options.caseInsensitive
        · simp [folding]
        · simp [folding, List.isPrefixOf, Bool.beq_comm]
  rw [take?_eq, takeSymbol?_eq, String.toList_singleton, starts]
  rfl

end Descent.TextCursor
