import Mathlib
import Descent.Proofs.Forward
import Descent.Proofs.OpenLimit
import Descent.Proofs.Unfolding

/-!
# Parses end

A grammar can refer to itself through deferred rules, also in front of everything else.
A parse ends all the same: it needs rules unfolded no further than the limits of deferred
rules allow, and each of its loops calls its parser at most once more than it consumes
units, or as often as its cap allows if it is not guarded.
-/

namespace Descent

variable {σ ι κ ω : Type}

/-- The loops inside the parser of a type are bounded. -/
def Shape.LoopsBounded (σ : Type) {ω : Type} [SymbolCursor σ ω] : Shape → Prop
  | .number => (Parser.digit : Parser σ ω String).Bounded
  | .optional shape | .boxed shape => shape.LoopsBounded σ
  | .sequence shape => (shape.build none : Parser σ ω Value).Bounded ∧ shape.LoopsBounded σ

def TextLeaf.LoopsBounded (σ : Type) {ω : Type} [SymbolCursor σ ω] : TextLeaf → Prop
  | .number => (Parser.digit : Parser σ ω String).Bounded
  | .typed shape => shape.LoopsBounded σ
  | _ => True

/-- The loops that a node makes in a scope are bounded. -/
def Grammar.LoopsBounded [Cursor σ ι ω] [Item ι] [Leaves κ σ ω] (leafLoops : κ → Prop)
    (scope : Scope σ ω) : Grammar ι κ → Prop
  | .leaf content => leafLoops content
  | .many p _ | .many1 p _ => (p.build scope none).value.Bounded
  | .separated delimiter p _ | .separated1 delimiter p _ =>
      (Parser.delimited (delimiter.build scope none).value (p.build scope none).value).Bounded
  | _ => True

theorem TextLeaf.loopsBounded [SymbolCursor σ ω] (advances : Cursor.Advances σ)
    (symbols : SymbolCursor.Advances σ) (content : TextLeaf) : content.LoopsBounded σ := by
  have symbolic := Correspondence.startingAt_symbolic advances symbols
  have digit : (Parser.digit : Parser σ ω String).Bounded :=
    (Parser.Forward.of_self fun start => (symbolic start).symbol "DIGIT" .digit).bounded
  have shape : ∀ shape : Shape, shape.LoopsBounded σ := by
    intro shape
    induction shape with
    | number => exact digit
    | optional _ ih | boxed _ ih => exact ih
    | sequence shape ih =>
        have forward : (shape.build none : Parser σ ω Value).Forward :=
          .of_self fun start => (symbolic start).shape shape none
        exact ⟨forward.bounded, ih⟩
  cases content with
  | number => exact digit
  | typed own => exact shape own
  | _ => trivial

variable [Cursor σ ι ω] [Item ι] [Leaves κ σ ω]

structure Grammar.Ends (σ : Type) {ι κ ω : Type} [Cursor σ ι ω] [Item ι] [Leaves κ σ ω]
    (leafLoops : κ → Prop) (rules : Rules ι κ) (grammar : Grammar ι κ) : Prop where
  /-- It returns: what it comes to is known from finitely many unfoldings of the rules,
  whatever stands beyond them. -/
  returns : ∀ (beyond : String → Logged (Parser σ ω Value)) {budget levels : Nat},
    rules.length ≤ budget → Grammar.levels rules grammar ≤ levels → ∀ s : σ,
      grammar.parseIn (rules.unfolding beyond budget levels) s = grammar.parse rules s
  /-- At no point more deferred parsers are open than the largest limit, or than were open
  before. -/
  opened : ∀ {s : σ} {context : Context ω} {before later : Journal},
    (grammar.parse rules s context).journal = before ++ later →
      context.depth + before.opening ≤ max (context.depth : Int) (Grammar.levels rules grammar)
  /-- The loops of all nodes are bounded, wherever the nodes are built. -/
  loops : ∀ part ∈ grammar.parts ++ rules.parts, ∀ budget levels,
    part.LoopsBounded leafLoops (rules.scopeWithin budget levels : Scope σ ω)

theorem Grammar.loopsBounded {advances : Cursor.Advances σ}
    (leaves : ∀ start, (Correspondence.startingAt advances start).Leafwise κ)
    {leafLoops : κ → Prop} (bounded : ∀ content, leafLoops content) (rules : Rules ι κ)
    (part : Grammar ι κ) (budget levels : Nat) :
    part.LoopsBounded leafLoops (rules.scopeWithin budget levels : Scope σ ω) := by
  have self := fun p : Grammar ι κ => Parser.build_self leaves rules p budget levels
  cases part with
  | leaf content => exact bounded content
  | many p limits | many1 p limits => exact (Parser.Forward.of_self (self p)).bounded
  | separated delimiter p limits | separated1 delimiter p limits =>
      have forward := Parser.Forward.of_self fun start =>
        (self delimiter start).delimited (self p start)
      exact forward.bounded
  | _ => trivial

theorem Grammar.ends (counted : (Correspondence.counted σ).Leafwise κ)
    (advances : Cursor.Advances σ)
    (leaves : ∀ start, (Correspondence.startingAt advances start).Leafwise κ)
    (confined : ∀ bound, (Comparison.confined σ κ bound).Leafwise) {leafLoops : κ → Prop}
    (bounded : ∀ content, leafLoops content) {rules : Rules ι κ} (acyclic : rules.Acyclic)
    (grammar : Grammar ι κ) : grammar.Ends σ leafLoops rules where
  returns beyond _ _ unfolded enough :=
    grammar.parseIn_unfolding counted acyclic beyond unfolded enough
  opened := Grammar.parse_opening_le counted (confined _)
  loops part _ := Grammar.loopsBounded leaves bounded rules part

/-- Every parse ends, over all kinds of input, if no rule leads back to itself in place. -/
theorem parse_ends :
    (∀ {rules : Rules String TextLeaf}, rules.Acyclic → ∀ grammar : Grammar String TextLeaf,
      grammar.Ends TextCursor (TextLeaf.LoopsBounded TextCursor) rules) ∧
      (∀ {rules : Rules String TextLeaf}, rules.Acyclic → ∀ grammar : Grammar String TextLeaf,
        grammar.Ends TokenCursor (TextLeaf.LoopsBounded TokenCursor) rules) ∧
      ∀ (ι : Type) [Item ι] {rules : Rules ι Empty}, rules.Acyclic →
        ∀ grammar : Grammar ι Empty, grammar.Ends (SliceCursor ι) (fun _ => True) rules := by
  refine ⟨?_, ?_, ?_⟩
  · intro rules acyclic grammar
    have symbolic := Correspondence.startingAt_symbolic TextCursor.advances
      TextCursor.symbols_advance
    exact grammar.ends Correspondence.counted_leafwise TextCursor.advances
      (fun start => (symbolic start).leafwise)
      (fun bound => (Comparison.confined_symbolic bound).leafwise)
      (TextLeaf.loopsBounded TextCursor.advances TextCursor.symbols_advance) acyclic
  · intro rules acyclic grammar
    have symbolic := Correspondence.startingAt_symbolic TokenCursor.advances
      TokenCursor.symbols_advance
    exact grammar.ends Correspondence.counted_leafwise TokenCursor.advances
      (fun start => (symbolic start).leafwise)
      (fun bound => (Comparison.confined_symbolic bound).leafwise)
      (TextLeaf.loopsBounded TokenCursor.advances TokenCursor.symbols_advance) acyclic
  · intro ι _ rules acyclic grammar
    exact grammar.ends Correspondence.leafwise_empty SliceCursor.advances
      (fun _ => Correspondence.leafwise_empty) (fun _ => Comparison.leafwise_empty)
      (fun _ => trivial) acyclic

/-- Sums that refer to themselves in front of everything else. -/
theorem parse_ends_sums :
    let rules : Rules String TextLeaf :=
      [("sum", .firstOf [.both (.deferred "" "sum" .standard) (.both (.exact "+") (.rule "term")),
        .rule "term"]),
        ("term", .many1 (.leaf .number) .standard)]
    rules.Acyclic ∧
      (Grammar.rule "sum").Ends TextCursor (TextLeaf.LoopsBounded TextCursor) rules := by
  intro rules
  have acyclic : rules.Acyclic := by
    apply Rules.Acyclic.of_rank fun name => if name = "sum" then 1 else 0
    rintro name target ⟨grammar, found, member⟩
    simp only [rules, List.lookup] at found
    split at found
    · next named =>
        cases found
        simp [Grammar.parts, Grammar.partsOfAll] at member
        simp [eq_of_beq named, member]
    · split at found
      · cases found
        simp [Grammar.parts] at member
      · cases found
  exact ⟨acyclic, parse_ends.1 acyclic _⟩

end Descent
