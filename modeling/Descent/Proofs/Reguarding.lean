import Descent.Cursor.Slice
import Descent.Cursor.Text
import Descent.Parser.Symbol
import Descent.Proofs.Chains
import Descent.Proofs.Cursor.Buffer

/-!
# Failures are reported under current labels

What a guard guards keeps the labels that it was made with; the guard itself reports under
the label that its parser has by the time it runs.  So renaming a guarded parser is all that
it takes to rename its failures, and guarding it once more under its own label changes
nothing.
-/

namespace Descent

variable {σ ι κ ω α β γ : Type}

/-- Asking once more whether anything is left gives the same answer and changes nothing. -/
def Cursor.Steady (σ : Type) {ι ω : Type} [Cursor σ ι ω] : Prop :=
  ∀ (s : σ) (shared : ω), Cursor.atEnd s (Cursor.atEnd s shared).2 = Cursor.atEnd s shared

theorem TextCursor.steady : Cursor.Steady TextCursor := fun _ _ => rfl

theorem SliceCursor.steady : Cursor.Steady (SliceCursor ι) := fun _ _ => rfl

theorem TokenCursor.steady : Cursor.Steady TokenCursor := by
  intro s buffer
  simp only [atEnd_eq, TokenBuffer.contents_pull, TokenBuffer.pull_pull]

/-- The parser of a chain that is finished under a label, or else under the label that it
has come to. -/
def Chain.built [Cursor σ ι ω] (chain : Chain σ ω γ α) (p : Parser σ ω α)
    (label : Option String) : Parser σ ω γ :=
  Parser.labeled (label.getD (chain.after p).label) (chain.after p)

namespace Parser

section

variable [Cursor σ ι ω]

/-- The parsers that carry a guard, under whatever names. -/
inductive HasGuard : {α : Type} → Parser σ ω α → Prop where
  | create {α : Type} (label : String) (run : σ → Run ω (Outcome σ α)) :
      HasGuard (create label run)
  | exact [Item ι] (expected : ι) : HasGuard (exact expected)
  | labeled {α : Type} (label : String) (p : Parser σ ω α) : HasGuard (labeled label p)
  | firstOf {α : Type} (alternatives : List (Parser σ ω α)) : HasGuard (firstOf alternatives)
  | between {α β γ : Type} (before : Parser σ ω α) (after : Parser σ ω β)
      (p : Parser σ ω γ) : HasGuard (between before after p)
  | built {α γ : Type} (chain : Chain σ ω γ α) (p : Parser σ ω α) (label : Option String) :
      HasGuard (chain.built p label)
  | renamed {α : Type} (label : String) {p : Parser σ ω α} (inner : HasGuard p) :
      HasGuard (p.withLabel label)

/-- However often it was renamed, what is left of the names is the last one. -/
theorem HasGuard.exists_guarded {p : Parser σ ω α} (made : HasGuard p) :
    ∃ (q : Parser σ ω α) (label : String), p = q.guarded.withLabel label := by
  induction made with
  | create | exact | labeled | firstOf | between | built => exact ⟨_, _, rfl⟩
  | renamed label _ ih =>
      obtain ⟨q, _, rfl⟩ := ih
      exact ⟨q, label, rfl⟩

/-- What a guard makes of a parser, whichever label it has come to have. -/
structure Reguards (p : Parser σ ω α) : Prop where
  /-- At the end of the input nothing is run. -/
  atEnd : ∀ {s : σ} {context : Context ω} {shared : ω},
    Cursor.atEnd s context.shared = (true, shared) →
      p.parse s context =
        ⟨.failure ⟨"EOF", if p.label = "" then [] else [p.label], s⟩,
          ⟨shared, context.depth⟩, []⟩
  outermost : ∀ {s : σ} {context : Context ω} {failed : Failed σ},
    (p.parse s context).value = .failure failed → p.label ≠ "" → failed.label = p.label
  labeled_label : (labeled p.label p).label = p.label
  labeled_parse : ∀ s, (labeled p.label p).parse s = p.parse s
  built_label : ((Chain.done : Chain σ ω α α).built p none).label = p.label
  built_parse : ∀ s, ((Chain.done : Chain σ ω α α).built p none).parse s = p.parse s

/-- A guard around a guarded parser, under the label that the parser has, is that parser:
the outer guard asks what the inner one asks, and the label is recorded already. -/
theorem labeled_guarded_parse (steady : Cursor.Steady σ) (q : Parser σ ω α) (label : String)
    (s : σ) :
    (labeled label (q.guarded.withLabel label)).parse s =
      (q.guarded.withLabel label).parse s := by
  funext context
  let p := q.guarded.withLabel label
  rcases asked : Cursor.atEnd s context.shared with ⟨ended, shared⟩
  cases ended with
  | true =>
      have inner : p.parse s context = ⟨.fail label "EOF" s, ⟨shared, context.depth⟩, []⟩ :=
        guarded_run_atEnd asked
      have outer : (labeled label p).parse s context =
          ⟨.fail label "EOF" s, ⟨shared, context.depth⟩, []⟩ := guarded_run_atEnd asked
      exact outer.trans inner.symm
  | false =>
      have again : Cursor.atEnd s shared = (false, shared) := by
        simpa only [asked] using steady s context.shared
      let guarded := q.parse s ⟨shared, context.depth⟩
      let reported : Step ω (Outcome σ α) :=
        ⟨guarded.value.relabel label, guarded.context, guarded.journal⟩
      have first : p.parse s context = reported := guarded_run_unread asked
      have second : p.parse s ⟨shared, context.depth⟩ = reported := guarded_run_unread again
      have outer : (labeled label p).parse s context =
          let step := p.parse s ⟨shared, context.depth⟩
          ⟨step.value.relabel label, step.context, step.journal⟩ := guarded_run_unread asked
      rw [first, outer, second]
      simp only [reported, Outcome.relabel_relabel]

/-- A parser with a guard fails at the end of the input without running anything, has its
own label as the outermost one of its failures, and is the same parser with one more guard. -/
theorem HasGuard.reguards {p : Parser σ ω α} (steady : Cursor.Steady σ) (made : HasGuard p) :
    Reguards p := by
  obtain ⟨q, label, rfl⟩ := made.exists_guarded
  have again := labeled_guarded_parse steady q label
  refine ⟨?_, guarded_run_outermost, rfl, again, rfl, again⟩
  intro s context shared ended
  have step : (q.guarded.withLabel label).parse s context =
      ⟨.fail label "EOF" s, ⟨shared, context.depth⟩, []⟩ := guarded_run_atEnd ended
  rw [step, Outcome.fail_eq]
  rfl

end

section

variable [Cursor σ ι ω]

/-- The parsers that report their failures under the label that they have. -/
inductive ReportsLabel : {α : Type} → Parser σ ω α → Prop where
  | guarded {α : Type} {p : Parser σ ω α} (made : HasGuard p) : ReportsLabel p
  | both {α β : Type} (p : Parser σ ω α) (q : Parser σ ω β) : ReportsLabel (p.both q)
  | keepFirst {α β : Type} (p : Parser σ ω α) (q : Parser σ ω β) : ReportsLabel (p.keepFirst q)
  | keepSecond {α β : Type} (p : Parser σ ω α) (q : Parser σ ω β) :
      ReportsLabel (p.keepSecond q)
  | attempt {α : Type} (p : Parser σ ω α) : ReportsLabel p.attempt
  | many1 {α : Type} (p : Parser σ ω α) (limits : Limits) : ReportsLabel (p.many1 limits)
  | separated1 {α δ : Type} (delimiter : Parser σ ω δ) (p : Parser σ ω α) (limits : Limits) :
      ReportsLabel (separated1 delimiter p limits)
  | renamed {α : Type} (label : String) {p : Parser σ ω α} (inner : ReportsLabel p) :
      ReportsLabel (p.withLabel label)

variable {p : Parser σ ω α} {q : Parser σ ω β} {label : String} {s : σ} {context : Context ω}

theorem runBoth_outermost {combine : α → β → γ} {failed : Failed σ}
    (failure : (runBoth label combine p q s context).value = .failure failed)
    (named : label ≠ "") : failed.label = label := by
  rcases first : p.parse s context with ⟨outcome, middle, journal⟩
  simp only [runBoth, Run.bind_apply, first] at failure
  cases outcome with
  | failure inner =>
      cases failure
      exact inner.label_relabel label named
  | success value rest =>
      rcases second : q.parse rest middle with ⟨outcome, last, further⟩
      simp only [Run.bind_apply, second] at failure
      cases outcome with
      | failure inner =>
          cases failure
          exact inner.label_relabel label named
      | success => cases failure

theorem many1_outermost {limits : Limits} {failed : Failed σ}
    (failure : ((p.many1 limits).run label s context).value = .failure failed)
    (named : label ≠ "") : failed.label = label := by
  rcases first : p.parse s context with ⟨outcome, middle, journal⟩
  simp only [many1, Run.bind_apply, first] at failure
  cases outcome with
  | failure inner =>
      cases failure
      exact inner.label_relabel label named
  | success => cases failure

theorem attempt_outermost {failed : Failed σ}
    (failure : (p.attempt.run label s context).value = .failure failed)
    (named : label ≠ "") : failed.label = label := by
  simp only [attempt, Run.map_apply] at failure
  cases came : (p.parse s context).value with
  | failure inner =>
      rw [came] at failure
      cases failure
      exact inner.label_relabel label named
  | success =>
      rw [came] at failure
      cases failure

/-- Whatever label such a parser runs under is the outermost one of its failures. -/
theorem ReportsLabel.outermost (reports : ReportsLabel p) {failed : Failed σ}
    (failure : (p.run label s context).value = .failure failed) (named : label ≠ "") :
    failed.label = label := by
  induction reports with
  | guarded made =>
      obtain ⟨q, _, rfl⟩ := made.exists_guarded
      exact guarded_run_outermost failure named
  | both | keepFirst | keepSecond => exact runBoth_outermost failure named
  | attempt => exact attempt_outermost failure named
  | many1 | separated1 => exact many1_outermost failure named
  | renamed _ _ ih => exact ih failure

end

section

variable [SymbolCursor σ ω]

/-- The parsers of symbols and numbers carry guards. -/
structure SymbolsHaveGuards (σ : Type) {ω : Type} [SymbolCursor σ ω] : Prop where
  symbol : ∀ label accepted, HasGuard (symbol label accepted : Parser σ ω String)
  space : HasGuard (space : Parser σ ω String)
  letter : HasGuard (letter : Parser σ ω String)
  digit : HasGuard (digit : Parser σ ω String)
  number : HasGuard (number : Parser σ ω UInt64)

theorem symbolsHaveGuards : SymbolsHaveGuards σ where
  symbol label _ := .create label _
  space := .create "SPACE" _
  letter := .create "LETTER" _
  digit := .create "DIGIT" _
  number := .labeled "NUMBER" _

end

end Parser

/-- A chain given as data has a guard unless it is left as it is. -/
theorem Grammar.chain_hasGuard [Cursor σ ι ω] [Item ι] [Leaves κ σ ω] (scope : Scope σ ω)
    (name : Option String) (first : Grammar ι κ) (steps : List (ChainStep (Grammar ι κ)))
    {finish : Finish} (finished : finish ≠ .bare) :
    ((chain first steps finish).build scope name).value.HasGuard := by
  let p := (first.build scope none).value
  let chained := Chain.ofSteps scope steps
  have guard : (finish.apply (chained.after p)).HasGuard := by
    cases finish with
    | structural => exact .built chained p none
    | labeled label => exact .built chained p (some label)
    | bare => exact absurd rfl finished
  rw [build, Logged.value_bind, Logged.value_bind, Chain.buildSteps_value]
  cases name with
  | none => exact guard
  | some label => exact guard.renamed label

/-- Guarded parsers are current: whatever they were renamed to is what they report under, at
the end of the input and elsewhere, and one more guard under that label is no change.  So is
the outermost label of sequences, attempts and repetitions that need an item. -/
theorem guarded_current :
    (∀ {σ ι ω α : Type} [Cursor σ ι ω] {p : Parser σ ω α}, Cursor.Steady σ →
      p.HasGuard → p.Reguards) ∧
      (Cursor.Steady TextCursor ∧ Cursor.Steady TokenCursor ∧
        ∀ ι : Type, Cursor.Steady (SliceCursor ι)) ∧
      (∀ {σ ω : Type} [SymbolCursor σ ω], Parser.SymbolsHaveGuards σ) ∧
      (∀ {σ ι κ ω : Type} [Cursor σ ι ω] [Item ι] [Leaves κ σ ω] (scope : Scope σ ω)
        (name : Option String) (first : Grammar ι κ) (steps : List (ChainStep (Grammar ι κ)))
        {finish : Finish}, finish ≠ .bare →
          ((Grammar.chain first steps finish).build scope name).value.HasGuard) ∧
      ∀ {σ ι ω α : Type} [Cursor σ ι ω] {p : Parser σ ω α}, p.ReportsLabel →
        ∀ {s : σ} {context : Context ω} {failed : Failed σ},
          (p.parse s context).value = .failure failed → p.label ≠ "" →
            failed.label = p.label := by
  refine ⟨?_, ?_, ?_, ?_, ?_⟩
  · intro σ ι ω α _ p steady made
    exact made.reguards steady
  · exact ⟨TextCursor.steady, TokenCursor.steady, fun _ => SliceCursor.steady⟩
  · intro σ ω _
    exact Parser.symbolsHaveGuards
  · intro σ ι κ ω _ _ _ scope name first steps finish finished
    exact Grammar.chain_hasGuard scope name first steps finished
  · intro σ ι ω α _ p reports s context failed failure named
    exact reports.outermost failure named

/-- An argument in brackets that was renamed twice, two such arguments, and a chain of a
digit and a comma. -/
theorem guarded_current_arguments :
    let brackets : Parser TextCursor Unit String := .between (.exact "(") (.exact ")") .digit
    let argument := (brackets.withLabel "").withLabel "ARGUMENT"
    let arguments := (argument.both argument).withLabel "ARGUMENTS"
    let digit : Grammar String TextLeaf := .leaf .digit
    let item := Grammar.chain digit [.keepFirst (.exact ",")] .structural
    let scope : Scope TextCursor Unit := Rules.scope ([] : Rules String TextLeaf) 0
    argument.Reguards ∧
      argument.parse (TextCursor.start "" .standard) ⟨(), 0⟩ =
        ⟨.failure ⟨"EOF", ["ARGUMENT"], TextCursor.start "" .standard⟩, ⟨(), 0⟩, []⟩ ∧
      (item.build scope (some "ITEM")).value.Reguards ∧
      ∃ failed, (arguments.parse (TextCursor.start "(1)(x)" .standard) ⟨(), 0⟩).value =
          .failure failed ∧
        failed.expected = ["DIGIT", "ARGUMENT", "ARGUMENTS"] ∧ failed.label = "ARGUMENTS" := by
  intro brackets argument arguments digit item scope
  have reguards : argument.Reguards :=
    guarded_current.1 TextCursor.steady (.renamed _ (.renamed _ (.between ..)))
  have finished : Finish.structural ≠ .bare := nofun
  have chained := guarded_current.2.2.2.1 scope (some "ITEM") digit [.keepFirst (.exact ",")]
    finished
  have failure : (arguments.parse (TextCursor.start "(1)(x)" .standard) ⟨(), 0⟩).value =
      .failure ⟨"unexpected symbol", ["DIGIT", "ARGUMENT", "ARGUMENTS"],
        ⟨"(1)(x)", 4, .standard, by decide⟩⟩ := rfl
  have reports : arguments.ReportsLabel := .renamed _ (.both ..)
  exact ⟨reguards, reguards.atEnd rfl, guarded_current.1 TextCursor.steady chained, _, failure,
    rfl, guarded_current.2.2.2.2 reports failure (by decide)⟩

end Descent
