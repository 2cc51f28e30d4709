import Descent.Run

/-!
# Cursors

A cursor is a value that stands somewhere in an input.  Consuming input yields a
further cursor and leaves the earlier one usable, so that backtracking is a matter
of keeping a cursor.  Cursors over one input may share state, which queries read
and extend.
-/

namespace Descent

/-- Cursors `σ` over items `ι`, whose queries work on shared state `ω`. -/
class Cursor (σ : Type) (ι ω : outParam Type) where
  /-- Consumes exactly the expected item; yields the input's own item and the
  cursor after it, or nothing on a mismatch and at the end. -/
  take? : σ → ι → Query ω (Option (ι × σ))
  /-- Whether nothing is left. -/
  atEnd : σ → Query ω Bool
  /-- The item at the cursor. -/
  peek? : σ → Query ω (Option ι)
  /-- How much of the input lies before the cursor, in a unit of its own. -/
  position : σ → Nat

/-- Cursors over text, whose items can be judged character by character. -/
class SymbolCursor (σ : Type) (ω : outParam Type) extends Cursor σ String ω where
  /-- Consumes the next symbol if all its characters are accepted. -/
  takeSymbol? : σ → (Char → Bool) → Query ω (Option (String × σ))

/-- Items that grammars given as data can mention. -/
class Item (ι : Type) where
  /-- The diagnostic text of an item. -/
  describe : ι → String
  /-- The value of one item. -/
  toValue : ι → Value
  /-- The value of the items that a cursor has yet to read. -/
  restValue : List ι → Value

instance : Item String where
  describe := Text.quoted
  toValue := .text
  restValue items := .list (items.map .text)

instance : Item Char where
  describe := Text.quotedChar
  toValue c := .text (String.singleton c)
  restValue items := .text (String.ofList items)

instance : Item Int where
  describe n := toString n
  toValue := .int
  restValue items := .list (items.map .int)

end Descent
