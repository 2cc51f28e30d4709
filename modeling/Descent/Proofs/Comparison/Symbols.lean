import Descent.Grammar.Leaves
import Descent.Proofs.Comparison.Rules

/-!
# Leaves of text grammars keep comparisons

Symbols, numbers and typed parsers agree as soon as taking a symbol moves a cursor no
other way than taking an item.
-/

namespace Descent

/-- Leaves that are equal up to the label of a symbol. -/
inductive TextLeaf.Varies (sameLabels : Prop) : TextLeaf → TextLeaf → Prop where
  | same (content : TextLeaf) : Varies sameLabels content content
  | symbol {label other : String} (accepted : SymbolClass) :
      (sameLabels → label = other) →
        Varies sameLabels (.symbol label accepted) (.symbol other accepted)

namespace Comparison

variable {σ ω : Type} [SymbolCursor σ ω] {c : Comparison σ TextLeaf} {floor : Nat}

/-- What a comparison demands of the leaves of text grammars. -/
structure Symbolic (c : Comparison σ TextLeaf) : Prop where
  takeSymbol_ahead : ∀ {s : σ} {accept : Char → Bool} {state : ω} {taken : String × σ},
    (SymbolCursor.takeSymbol? s accept state).1 = some taken → c.ahead s taken.2
  leaves : ∀ {content other}, c.leaves content other → content.Varies c.sameLabels other
  standard : c.repetitions .standard .standard

namespace Symbolic

theorem symbol (symbolic : c.Symbolic) {label other : String} (labels : c.Labels label other)
    (accepted : SymbolClass) :
    c.Parsers floor (.symbol label accepted) (.symbol other accepted) := by
  apply Parsers.create labels
  intro s
  apply (Runs.ask (SymbolCursor.takeSymbol? s accepted.accepts)).bind
  rintro taken _ ⟨rfl, state, answered⟩
  cases taken with
  | some taken => exact .pure (.success (symbolic.takeSymbol_ahead answered))
  | none => exact .pure (.fail (fun _ => rfl) "unexpected symbol")

theorem numberParts (symbolic : c.Symbolic) :
    c.Parsers floor Parser.numberParts Parser.numberParts := by
  have sign : c.Parsers floor (.firstOf [.exact "+", .exact "-"])
      (.firstOf [.exact "+", .exact "-"]) :=
    .firstOf (.cons (.exact "+") (.cons (.exact "-") .nil))
  have digit : c.Parsers floor Parser.digit Parser.digit :=
    symbolic.symbol (fun _ => rfl) .digit
  have point : c.Parsers floor (.exact ".") (.exact ".") := .exact "."
  exact ((sign.optional.both (digit.many1 symbolic.standard)).both point.optional).both
    (digit.many symbolic.standard)

theorem number (symbolic : c.Symbolic) : c.Parsers floor Parser.number Parser.number :=
  (symbolic.numberParts.tryMap _ _).labeled fun _ => rfl

theorem shape (symbolic : c.Symbolic) (shape : Shape) {name name' : Option String}
    (names : c.sameLabels → name = name') :
    c.Parsers floor (shape.build name) (shape.build name') := by
  have unnamed : c.sameLabels → (none : Option String) = none := fun _ => rfl
  induction shape generalizing name name' with
  | number => exact (symbolic.number.called names).map _
  | optional _ ih => exact ((ih unnamed).optional.called names).map _
  | sequence _ ih => exact (((ih unnamed).many symbolic.standard).called names).map _
  | boxed _ ih => exact ((ih unnamed).map id).called names

theorem leafwise (symbolic : c.Symbolic) : c.Leafwise := by
  intro floor name name' content other names varies
  cases symbolic.leaves varies with
  | symbol accepted labels => exact ((symbolic.symbol labels accepted).called names).map _
  | same =>
      have unlabeled : ∀ {label : String}, c.Labels label label := fun _ => rfl
      cases content with
      | space => exact ((symbolic.symbol unlabeled .blank).called names).map _
      | letter => exact ((symbolic.symbol unlabeled .word).called names).map _
      | digit => exact ((symbolic.symbol unlabeled .digit).called names).map _
      | number => exact (symbolic.number.called names).map _
      | symbol label accepted => exact ((symbolic.symbol unlabeled accepted).called names).map _
      | typed shape => exact symbolic.shape shape names

end Symbolic

end Comparison

end Descent
