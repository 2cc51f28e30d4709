import Descent.Grammar.Build
import Descent.Parser.Symbol

/-!
# Leaves of text grammars

Symbols, numbers, and the parsers that belong to types composed of numbers, options,
sequences and boxes.
-/

namespace Descent

variable {σ ω : Type} [SymbolCursor σ ω]

/-- Types with a parser of their own. -/
inductive Shape where
  | number
  | optional (shape : Shape)
  | sequence (shape : Shape)
  | boxed (shape : Shape)
  deriving DecidableEq, Repr

/-- The parser of a type, under a new name if one is given.  A box adds nothing to
the value, but is a transformation and so keeps the failures of what is in it. -/
def Shape.build (name : Option String) : Shape → Parser σ ω Value
  | .number => (Parser.number.called name).map .float
  | .optional shape => ((Shape.build none shape).optional.called name).map .ofOption
  | .sequence shape => (((Shape.build none shape).many .standard).called name).map .list
  | .boxed shape => ((Shape.build none shape).map id).called name

/-- Leaves of grammars over text and tokens. -/
inductive TextLeaf where
  | space
  | letter
  | digit
  | number
  | symbol (label : String) (accepted : SymbolClass)
  | typed (shape : Shape)

instance : Leaves TextLeaf σ ω where
  build name
    | .space => (Parser.space.called name).map .text
    | .letter => (Parser.letter.called name).map .text
    | .digit => (Parser.digit.called name).map .text
    | .number => (Parser.number.called name).map .float
    | .symbol label accepted => ((Parser.symbol label accepted).called name).map .text
    | .typed shape => shape.build name

end Descent
