import Descent.Grammar.Leaves
import Descent.Proofs.Congruence.Grammar

/-!
# Leaves of text grammars keep congruences

Symbols, numbers and typed parsers ask for symbols and are otherwise put together from the
common combinators.
-/

namespace Descent.Congruence

variable {σ ι κ ω : Type}

theorem leafwise_empty [Cursor σ ι ω] {c : Congruence σ} : c.Leafwise Empty :=
  fun _ content => nomatch content

variable [SymbolCursor σ ω] {c : Congruence σ}

/-- The question for a symbol is related to itself. -/
def Symbolic (c : Congruence σ) : Prop :=
  ∀ (s : σ) (accept : Char → Bool),
    c.Runs (Run.ask (SymbolCursor.takeSymbol? s accept))
      (Run.ask (SymbolCursor.takeSymbol? s accept))

namespace Symbolic

theorem symbol (symbolic : c.Symbolic) (label : String) (accepted : SymbolClass) :
    c.Parsers (.symbol label accepted) (.symbol label accepted) := by
  apply Parsers.create
  intro s
  apply c.bind (symbolic s accepted.accepts)
  intro taken
  cases taken with
  | some taken => exact c.pure _
  | none => exact c.pure _

theorem number (symbolic : c.Symbolic) : c.Parsers Parser.number Parser.number := by
  have sign : c.Parses (.firstOf [.exact "+", .exact "-"]) (.firstOf [.exact "+", .exact "-"]) :=
    (Parses.firstOf (.cons (Parsers.exact "+").parses
      (.cons (Parsers.exact "-").parses .nil))).parses
  have digit : c.Parses Parser.digit Parser.digit := (symbolic.symbol "DIGIT" .digit).parses
  have point : c.Parses (.exact ".") (.exact ".") := (Parsers.exact ".").parses
  have whole := (sign.optional.parses.both (digit.many1 .standard).parses).parses
  have parts := (whole.both point.optional.parses).parses.both (digit.many .standard).parses
  exact (parts.parses.tryMap _ _).parses.labeled "NUMBER"

theorem shape (symbolic : c.Symbolic) (shape : Shape) (name : Option String) :
    c.Parsers (shape.build name) (shape.build name) := by
  induction shape generalizing name with
  | number => exact (symbolic.number.called name).parses.map _
  | optional _ ih => exact ((ih none).parses.optional.called name).parses.map _
  | sequence _ ih => exact (((ih none).parses.many .standard).called name).parses.map _
  | boxed _ ih => exact ((ih none).parses.map id).called name

theorem leafwise (symbolic : c.Symbolic) : c.Leafwise TextLeaf := by
  have text : ∀ {p : Parser σ ω String}, c.Parsers p p →
      ∀ name, c.Parsers ((p.called name).map Value.text) ((p.called name).map Value.text) :=
    fun alike name => (alike.called name).parses.map _
  intro name content
  cases content with
  | space => exact text (symbolic.symbol "SPACE" .blank) name
  | letter => exact text (symbolic.symbol "LETTER" .word) name
  | digit => exact text (symbolic.symbol "DIGIT" .digit) name
  | number => exact (symbolic.number.called name).parses.map _
  | symbol label accepted => exact text (symbolic.symbol label accepted) name
  | typed shape => exact symbolic.shape shape name

end Symbolic

end Descent.Congruence
