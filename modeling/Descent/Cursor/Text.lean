import Descent.Cursor.Basic
import Descent.Text.Offset
import Descent.Unicode.Lowercase

/-!
# Cursors over text

The unit of position is the byte.  An expected text matches if it stands at the
cursor; a cursor that ignores case looks for the end of as many characters as the
expected text has, and compares what is in front of that end after lower-casing both.
Either way the cursor moves by the bytes that matched, and the input's own text is taken.
-/

namespace Descent

/-- How a text cursor compares. -/
structure TextOptions where
  caseInsensitive : Bool
  deriving DecidableEq, Repr

namespace TextOptions

/-- Exact comparison. -/
def standard : TextOptions := ⟨false⟩

/-- The diagnostic text of the options. -/
def describe (options : TextOptions) : String :=
  Text.recordOf "StrOptions"
    [Text.field "case_insensitive" (toString options.caseInsensitive)]

end TextOptions

/-- A place in a text: the whole text, and the number of bytes before the place. -/
@[ext]
structure TextCursor where
  input : String
  offset : Nat
  options : TextOptions
  boundary : Text.Boundary input offset
  deriving DecidableEq, Repr

namespace TextCursor

/-- The beginning of a text. -/
def start (input : String) (options : TextOptions) : TextCursor :=
  ⟨input, 0, options, String.Pos.Raw.isValid_zero⟩

/-- The unread text. -/
def rest (s : TextCursor) : String :=
  Text.slice s.input s.offset s.input.utf8ByteSize (Text.sliceable_end s.boundary)

/-- Consumes a number of bytes. -/
def advance (s : TextCursor) (length : Nat)
    (inside : Text.Sliceable s.input s.offset (s.offset + length)) : String × TextCursor :=
  (Text.slice s.input s.offset (s.offset + length) inside,
    { s with offset := s.offset + length, boundary := inside.last })

/-- A number of bytes, if they are the expected text after lower-casing. -/
def foldsTo? (s : TextCursor) (expected : String) (length : Nat)
    (inside : Text.Sliceable s.input s.offset (s.offset + length)) : Option Nat :=
  let candidate := Text.slice s.input s.offset (s.offset + length) inside
  if Unicode.foldEq candidate.toList expected.toList then some length else none

/-- How many bytes at the cursor match an expected text under the options. -/
def matchLength? (s : TextCursor) (expected : String) : Option Nat :=
  if s.options.caseInsensitive then
    match expected.length with
    | 0 => none
    | number + 1 =>
        ((Text.lengthThrough? s.input s.offset 0 number).pmap (s.foldsTo? expected)
          fun _ found => Text.sliceable_lengthThrough? s.boundary found).join
  else
    if Text.standsAt s.input s.offset expected.toList then some expected.utf8ByteSize else none

theorem foldsTo?_eq_some {s : TextCursor} {expected : String} {length matched : Nat}
    {inside : Text.Sliceable s.input s.offset (s.offset + length)}
    (found : s.foldsTo? expected length inside = some matched) : length = matched :=
  Option.some.inj (Option.ite_none_right_eq_some.mp found).2

/-- What matches can be sliced. -/
theorem sliceable_matchLength? {s : TextCursor} {expected : String} {length : Nat}
    (found : s.matchLength? expected = some length) :
    Text.Sliceable s.input s.offset (s.offset + length) := by
  unfold matchLength? at found
  split at found
  · split at found
    · cases found
    · have folds := Option.join_eq_some_iff.mp found
      obtain ⟨_, inside, _, same⟩ := Option.pmap_eq_some_iff.mp folds
      obtain rfl := foldsTo?_eq_some same.symm
      exact inside
  · obtain ⟨stands, same⟩ := Option.ite_none_right_eq_some.mp found
    obtain rfl := Option.some.inj same
    exact Text.sliceable_standsAt s.boundary stands

/-- Consumes an expected text.  The empty text is found everywhere. -/
def take? (s : TextCursor) (expected : String) : Option (String × TextCursor) :=
  if expected.isEmpty then
    some (s.advance 0 (Text.sliceable_self s.boundary))
  else
    (s.matchLength? expected).pmap s.advance fun _ found => sliceable_matchLength? found

/-- The next character as a text. -/
def peek? (s : TextCursor) : Option String :=
  (Text.charAt? s.input s.offset).map String.singleton

/-- Consumes the next character if it is accepted. -/
def takeSymbol? (s : TextCursor) (accept : Char → Bool) : Option (String × TextCursor) :=
  ((Text.charAt? s.input s.offset).filter accept).pmap (fun c => s.advance c.utf8Size)
    fun _ found => Text.sliceable_charAt? s.boundary (Option.filter_eq_some_iff.mp found).1

/-- The diagnostic text of a cursor. -/
def describe (s : TextCursor) : String :=
  Text.recordOf "StrStream"
    [Text.field "input" (Text.quoted s.input), Text.field "offset" (toString s.offset),
      Text.field "options" s.options.describe]

instance : SymbolCursor TextCursor Unit where
  take? s expected shared := (s.take? expected, shared)
  atEnd s shared := (decide (s.input.utf8ByteSize ≤ s.offset), shared)
  peek? s shared := (s.peek?, shared)
  position s := s.offset
  takeSymbol? s accept shared := (s.takeSymbol? accept, shared)

end TextCursor

end Descent
