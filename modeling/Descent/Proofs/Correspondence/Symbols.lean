import Descent.Grammar.Leaves
import Descent.Proofs.Correspondence.Grammar

/-!
# Leaves of text grammars keep correspondences

Symbols, numbers and typed parsers over two kinds of cursors correspond as soon as
the single question for a symbol does.
-/

namespace Descent.Correspondence

variable {σ τ ω υ : Type} [SymbolCursor σ ω] [SymbolCursor τ υ]
  {c : Correspondence σ τ} {floor : Nat}

/-- The question for a symbol keeps a correspondence, and the marks inside numbers
may be expected. -/
structure Symbolic (c : Correspondence σ τ) : Prop where
  takeSymbol : ∀ {s t}, c.cursors s t → ∀ accept,
    Query.Corresponds c.shared (Option.Rel (Placed c.cursors))
      (SymbolCursor.takeSymbol? s accept) (SymbolCursor.takeSymbol? t accept)
  marks : ∀ mark ∈ ["+", "-", "."], c.expects mark

namespace Symbolic

theorem symbol (symbolic : c.Symbolic) (label : String) (accepted : SymbolClass) :
    c.Parsers floor (.symbol label accepted) (.symbol label accepted) := by
  apply Parsers.create label
  intro s t there
  apply Runs.bind (.ask (symbolic.takeSymbol there accepted.accepts))
  intro _ _ found
  cases found with
  | some placed =>
      cases placed with
      | same rest => exact .pure (.success rest)
  | none => exact .pure (.fail there "" "unexpected symbol")

theorem mark (symbolic : c.Symbolic) {mark : String} (member : mark ∈ ["+", "-", "."]) :
    c.Parsers floor (.exact mark) (.exact mark) :=
  .exact (symbolic.marks mark member)

theorem numberParts (symbolic : c.Symbolic) :
    c.Parsers floor Parser.numberParts Parser.numberParts := by
  have sign : c.Parsers floor (.firstOf [.exact "+", .exact "-"])
      (.firstOf [.exact "+", .exact "-"]) :=
    .firstOf (.cons (symbolic.mark (by simp)) (.cons (symbolic.mark (by simp)) .nil))
  have digit : c.Parsers floor Parser.digit Parser.digit := symbolic.symbol "DIGIT" .digit
  have point : c.Parsers floor (.exact ".") (.exact ".") := symbolic.mark (by simp)
  exact ((sign.optional.both (digit.many1 .standard)).both point.optional).both
    (digit.many .standard)

theorem number (symbolic : c.Symbolic) : c.Parsers floor Parser.number Parser.number :=
  (symbolic.numberParts.tryMap _ _).labeled "NUMBER"

theorem shape (symbolic : c.Symbolic) (shape : Shape) (name : Option String) :
    c.Parsers floor (shape.build name) (shape.build name) := by
  induction shape generalizing name with
  | number => exact (symbolic.number.called name).map _
  | optional _ ih => exact ((ih none).optional.called name).map _
  | sequence _ ih => exact (((ih none).many .standard).called name).map _
  | boxed _ ih => exact ((ih none).map id).called name

theorem leafwise (symbolic : c.Symbolic) : c.Leafwise TextLeaf := by
  intro floor name content
  cases content with
  | space => exact ((symbolic.symbol "SPACE" .blank).called name).map _
  | letter => exact ((symbolic.symbol "LETTER" .word).called name).map _
  | digit => exact ((symbolic.symbol "DIGIT" .digit).called name).map _
  | number => exact (symbolic.number.called name).map _
  | symbol label accepted => exact ((symbolic.symbol label accepted).called name).map _
  | typed shape => exact symbolic.shape shape name

end Symbolic

end Descent.Correspondence
