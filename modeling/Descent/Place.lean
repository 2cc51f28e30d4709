import Descent.Cursor.Slice
import Descent.Cursor.Text
import Descent.Cursor.Token

/-!
# Places

What can be said about where a cursor stands, beyond what parsers ask: its
diagnostic text, the items it has yet to read, the tokens pulled so far, and whether
it equals another cursor.  Not every kind of cursor answers every question.
-/

namespace Descent

/-- Cursors that can be looked at from outside. -/
class Inspectable (σ : Type) (ι ω : outParam Type) extends Cursor σ ι ω where
  /-- The diagnostic text of a cursor. -/
  describe : σ → Query ω String
  /-- What is left to read, where that is known without asking. -/
  rest? : σ → Option Value
  /-- How many items have been pulled, where items are pulled. -/
  buffered? : ω → Option Nat
  /-- The same place under comparison that ignores case. -/
  foldingCase? : σ → Option σ
  /-- The options of a text. -/
  options? : σ → Option TextOptions
  /-- Consumes a symbol, where items are judged by their characters. -/
  symbol? : Option (σ → (Char → Bool) → Query ω (Option (ι × σ)))
  /-- Whether two cursors are equal, given whether they are over one input. -/
  same : Bool → σ → σ → Bool

instance : Inspectable TextCursor String Unit where
  describe s shared := (s.describe, shared)
  rest? s := some (.text s.rest)
  buffered? _ := none
  foldingCase? _ := none
  options? s := some s.options
  symbol? := some SymbolCursor.takeSymbol?
  same _ s t := s.input == t.input && s.offset == t.offset && s.options == t.options

instance : Inspectable TokenCursor String TokenBuffer where
  describe s := s.describe
  rest? _ := none
  buffered? buffer := some buffer.tokens.size
  foldingCase? s := some s.foldingCase
  options? _ := none
  symbol? := some SymbolCursor.takeSymbol?
  same sameInput s t := sameInput && s == t

instance {ι : Type} [Item ι] : Inspectable (SliceCursor ι) ι Unit where
  describe s shared := (s.describe, shared)
  rest? s := some (Item.restValue s.rest)
  buffered? _ := none
  foldingCase? _ := none
  options? _ := none
  symbol? := none
  same sameInput s t := sameInput && s.index == t.index

/-- Where a cursor stands.  The number of pulled items is the one before asking for
the end and for the next item, since asking pulls items. -/
structure Place where
  position : Nat
  buffered : Option Nat
  atEnd : Bool
  next : Option Value
  rest : Option Value

/-- Looks where a cursor stands. -/
def Place.of {σ ι ω : Type} [Inspectable σ ι ω] [Item ι] (s : σ) : Query ω Place :=
  fun shared =>
    let buffered := Inspectable.buffered? σ shared
    let (atEnd, shared) := Cursor.atEnd s shared
    let (next, shared) := Cursor.peek? s shared
    (⟨Cursor.position s, buffered, atEnd, next.map Item.toValue, Inspectable.rest? s⟩, shared)

end Descent
