import Descent.Cursor.Slice
import Descent.Cursor.Text
import Descent.Cursor.Token
import Descent.Proofs.Congruence.Symbols

/-!
# Observers are transparent

Watching and tracing write to the journal and do nothing else.  A grammar comes to the
same with observers as without, at the same place and under the same labels, and what
else is written is the same in the same order, as long as no new label is given to an
observer.
-/

namespace Descent

variable {σ ι κ ω α β : Type}

/-- The entries that observers have not written. -/
def Journal.unobserved (journal : Journal) : Journal :=
  journal.filter fun event => !event.isObservation

def Step.unobserved (step : Step ω α) : Step ω α := { step with journal := step.journal.unobserved }

def Run.unobserved (run : Run ω α) : Run ω α := fun context => (run context).unobserved

theorem Run.unobserved_bind (first : Run ω α) (later : α → Run ω β) :
    (first >>= later).unobserved = first.unobserved >>= fun value => (later value).unobserved := by
  funext context
  simp only [unobserved, Step.unobserved, bind_apply, Journal.unobserved, List.filter_append]

/-- The second run is the first one without what observers write. -/
def Congruence.unobserved (σ : Type) [Cursor σ ι ω] : Congruence σ where
  Runs first second := first.unobserved = second
  pure _ := rfl
  bind := by
    intro _ _ first second later last before after
    rw [Run.unobserved_bind, before, funext after]
  atEnd _ := rfl
  peek _ := rfl
  take _ _ := rfl
  write event other := by
    funext context
    simp [Run.unobserved, Step.unobserved, Journal.unobserved, Run.write, other]
  depth := rfl
  enter _ := rfl
  exit _ := rfl

namespace Congruence

theorem unobserved_observing [Cursor σ ι ω] : (unobserved σ).Observing false := by
  intro event observation
  change (Run.write event).unobserved = Pure.pure ()
  funext context
  simp [Run.unobserved, Step.unobserved, Journal.unobserved, Run.write, Run.pure_apply, observation]

theorem unobserved_symbolic [SymbolCursor σ ω] : (unobserved σ).Symbolic := fun _ _ => rfl

end Congruence

namespace Grammar

/-- The label of the parser that a grammar with rules stands for, over cursors `σ`. -/
def label (σ : Type) {ι κ ω : Type} [Cursor σ ι ω] [Item ι] [Leaves κ σ ω] (rules : Rules ι κ)
    (grammar : Grammar ι κ) : String :=
  (grammar.parser rules : Logged (Parser σ ω Value)).value.label

/-- A grammar with rules, over cursors `σ`, that its observers do not change. -/
structure Transparent (σ : Type) {ι κ ω : Type} [Cursor σ ι ω] [Item ι] [Leaves κ σ ω]
    (rules : Rules ι κ) (grammar : Grammar ι κ) : Prop where
  label : grammar.label σ rules = grammar.withoutObservers.label σ rules.withoutObservers
  parse : ∀ (s : σ) (context : Context ω),
    (grammar.parse rules s context).unobserved =
      grammar.withoutObservers.parse rules.withoutObservers s context

theorem transparent [Cursor σ ι ω] [Item ι] [Leaves κ σ ω]
    (leaves : (Congruence.unobserved σ).Leafwise κ) {rules : Rules ι κ}
    {grammar : Grammar ι κ}
    (unnamed : ∀ part ∈ grammar.parts ++ rules.parts, ¬ part.RenamesObserver rules) :
    grammar.Transparent σ rules := by
  have unnamed : Congruence.Unnamed false rules (grammar.parts ++ rules.parts) := fun _ => unnamed
  have built := Congruence.parser_related Congruence.unobserved_observing leaves unnamed
  refine ⟨built.value.label, ?_⟩
  intro s context
  have runs := Congruence.parse_related Congruence.unobserved_observing leaves unnamed s
  exact congrFun runs context

end Grammar

/-- Grammars in which no observer is given a new label have the label that they have
without observers, come to the same outcome, and write the same besides observations. -/
theorem parse_unobserved_eq :
    (∀ {rules : Rules String TextLeaf} {grammar : Grammar String TextLeaf},
      (∀ part ∈ grammar.parts ++ rules.parts, ¬ part.RenamesObserver rules) →
        grammar.Transparent TextCursor rules ∧ grammar.Transparent TokenCursor rules) ∧
      ∀ (ι : Type) [Item ι] {rules : Rules ι Empty} {grammar : Grammar ι Empty},
        (∀ part ∈ grammar.parts ++ rules.parts, ¬ part.RenamesObserver rules) →
          grammar.Transparent (SliceCursor ι) rules := by
  refine ⟨?_, ?_⟩
  · intro rules grammar unnamed
    have text := (Congruence.unobserved_symbolic (σ := TextCursor)).leafwise
    have tokens := (Congruence.unobserved_symbolic (σ := TokenCursor)).leafwise
    exact ⟨Grammar.transparent text unnamed, Grammar.transparent tokens unnamed⟩
  · intro ι _ rules grammar unnamed
    exact Grammar.transparent Congruence.leafwise_empty unnamed

/-- Nested lists of numbers with observers around rules, items, alternatives and a chain,
of which only what composes something is given a new label.  Of what a parse of a list in a
list writes, observers have written most. -/
theorem parse_unobserved_eq_lists :
    let item : Grammar String TextLeaf :=
      .firstOf [.traced (.leaf .number), .deferred "INNER" "list" .standard]
    let rules : Rules String TextLeaf :=
      [("list", .traced (.between (.exact "[") (.exact "]")
        (.many (.watched "ITEM" (.keepFirst item (.optional (.exact ",")))) .standard)))]
    let lists : Grammar String TextLeaf :=
      .chain (.watched "LIST" (.rule "list")) [.look, .keepFirst (.traced (.exact ";")), .copy]
        .bare
    let grammar : Grammar String TextLeaf := .renamed "LISTS" lists
    (∀ part ∈ grammar.parts ++ rules.parts, ¬ part.RenamesObserver rules) ∧
      (grammar.Transparent TextCursor rules ∧ grammar.Transparent TokenCursor rules) ∧
      (grammar.parse rules (TextCursor.start "[1,[2]];" .standard) ⟨(), 0⟩).value =
        .success (.list [.float 0x3FF0000000000000, .list [.float 0x4000000000000000]])
          ⟨"[1,[2]];", 8, .standard, by decide⟩ ∧
      (grammar.withoutObservers.parse rules.withoutObservers
          (TextCursor.start "[1,[2]];" .standard) ⟨(), 0⟩).value =
        .success (.list [.float 0x3FF0000000000000, .list [.float 0x4000000000000000]])
          ⟨"[1,[2]];", 8, .standard, by decide⟩ ∧
      (grammar.parse rules (TextCursor.start "[1,[2]];" .standard) ⟨(), 0⟩).journal.length = 23 ∧
      (grammar.withoutObservers.parse rules.withoutObservers
        (TextCursor.start "[1,[2]];" .standard) ⟨(), 0⟩).journal.length = 7 := by
  intro item rules lists grammar
  refine ⟨?unnamed, parse_unobserved_eq.1 ?unnamed, by decide +kernel +revert,
    by decide +kernel +revert, by decide +kernel +revert, by decide +kernel +revert⟩
  case unnamed =>
    have composed : ¬ lists.Observes rules := by
      simp only [lists]
      intro observes
      cases observes with
      | chain first idle => cases idle (.keepFirst (.traced (.exact ";"))) (by simp)
    intro part member
    cases part with
    | renamed label p =>
        obtain ⟨_, rfl⟩ : label = "LISTS" ∧ p = lists := by
          simpa [grammar, lists, rules, item, Grammar.parts, Rules.parts, Grammar.partsOfAll,
            Grammar.partsOfSteps] using member
        exact composed
    | _ => exact id

end Descent
