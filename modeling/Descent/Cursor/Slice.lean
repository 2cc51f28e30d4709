import Descent.Cursor.Basic

/-!
# Cursors over arrays of items

Whether the next item matches an expected one is decided by a comparison, which
need not be an equality; the array's own item is consumed.  The unit of position is
the item.
-/

namespace Descent

variable {ι : Type}

/-- A place in an array, with the comparison `agrees expected actual`. -/
structure SliceCursor (ι : Type) where
  items : Array ι
  index : Nat
  agrees : ι → ι → Bool

namespace SliceCursor

/-- The first item. -/
def start (items : Array ι) (agrees : ι → ι → Bool) : SliceCursor ι := ⟨items, 0, agrees⟩

/-- The unread items. -/
def rest (s : SliceCursor ι) : List ι := s.items.toList.drop s.index

/-- The current item. -/
def current? (s : SliceCursor ι) : Option ι := s.items[s.index]?

/-- Consumes the current item if it agrees with the expected one. -/
def take? (s : SliceCursor ι) (expected : ι) : Option (ι × SliceCursor ι) :=
  match s.current? with
  | some actual =>
      if s.agrees expected actual then some (actual, { s with index := s.index + 1 }) else none
  | none => none

theorem take?_eq (s : SliceCursor ι) (expected : ι) :
    s.take? expected =
      (s.items[s.index]?.filter (s.agrees expected)).map
        (·, { s with index := s.index + 1 }) := by
  unfold take? current?
  cases s.items[s.index]? with
  | none => rfl
  | some actual =>
      by_cases agreed : s.agrees expected actual = true
      · simp [Option.filter, agreed]
      · simp [Option.filter, agreed]

/-- Only an item that is there can be consumed. -/
theorem of_take? {s : SliceCursor ι} {expected : ι} {taken : ι × SliceCursor ι}
    (success : s.take? expected = some taken) :
    taken.2 = { s with index := s.index + 1 } ∧ s.index < s.items.size := by
  rw [take?_eq, Option.map_eq_some_iff] at success
  obtain ⟨item, found, rfl⟩ := success
  have present : s.items[s.index]? = some item := (Option.filter_eq_some_iff.mp found).1
  exact ⟨rfl, (Array.getElem?_eq_some_iff.mp present).1⟩

/-- The diagnostic text of a cursor, which shows the unread items. -/
def describe [Item ι] (s : SliceCursor ι) : String :=
  Text.recordOf "SliceStream"
    [Text.field "index" (toString s.index),
      Text.field "rest" (Text.bracketed (s.rest.map Item.describe)), Text.ellipsis]

instance : Cursor (SliceCursor ι) ι Unit where
  take? s expected shared := (s.take? expected, shared)
  atEnd s shared := (decide (s.items.size ≤ s.index), shared)
  peek? s shared := (s.current?, shared)
  position s := s.index

end SliceCursor

namespace Comparison

/-- Integers of equal absolute value. -/
def sameMagnitude (expected actual : Int) : Bool := expected.natAbs == actual.natAbs

/-- The expected integer is the smaller one. -/
def less (expected actual : Int) : Bool := expected < actual

/-- Always holds. -/
def always (_ _ : ι) : Bool := true

/-- Never holds. -/
def never (_ _ : ι) : Bool := false

/-- Characters that differ at most in the case of ASCII letters. -/
def sameLetter (expected actual : Char) : Bool := expected.toLower == actual.toLower

/-- Texts that differ at most in the case of ASCII letters. -/
def sameLetters (expected actual : String) : Bool :=
  expected.toList.map Char.toLower == actual.toList.map Char.toLower

/-- The actual text starts with the expected one. -/
def beginsWith (expected actual : String) : Bool :=
  expected.toList.isPrefixOf actual.toList

end Comparison

end Descent
