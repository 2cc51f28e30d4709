import Descent.Proofs.Comparison.Combinators
import Descent.Proofs.Grammar.Parts

/-!
# Grammars keep comparisons

Grammars of one shape build parsers whose runs agree.  Deferred rules are unfolded
level by level; both sides need levels only for what the first grammar can open,
because the second one opens nothing else.
-/

namespace Descent.Comparison

variable {σ ι κ ω α β γ δ : Type} [Cursor σ ι ω] {c : Comparison σ κ} {floor bound : Nat}

/-- Two values made while journals were written that belong together. -/
structure Built (c : Comparison σ κ) (related : α → β → Prop) (first : Logged α)
    (second : Logged β) : Prop where
  value : related first.value second.value
  journal : c.Entries first.journal second.journal

namespace Built

theorem pure {related : α → β → Prop} {left : α} {right : β} (holds : related left right) :
    c.Built related (Pure.pure left) (Pure.pure right) :=
  ⟨holds, .nil⟩

theorem bind {related : α → β → Prop} {next : γ → δ → Prop} {first : Logged α}
    {second : Logged β} {later : α → Logged γ} {last : β → Logged δ}
    (before : c.Built related first second)
    (after : ∀ {left right}, related left right → c.Built next (later left) (last right)) :
    c.Built next (first >>= later) (second >>= last) := by
  have finish := after before.value
  exact ⟨finish.value, List.rel_append before.journal finish.journal⟩

theorem map {related : α → β → Prop} {next : γ → δ → Prop} {first : Logged α}
    {second : Logged β} {f : α → γ} {g : β → δ} (before : c.Built related first second)
    (after : ∀ {left right}, related left right → next (f left) (g right)) :
    c.Built next (first >>= fun left => Pure.pure (f left))
      (second >>= fun right => Pure.pure (g right)) :=
  before.bind fun holds => .pure (after holds)

theorem note {text other : String} (labels : c.Labels text other) :
    c.Built Eq (Logged.write (.composed text)) (Logged.write (.composed other)) :=
  ⟨rfl, .cons (.composed labels) .nil⟩

end Built

theorem Runs.adopt {related : α → β → Prop} {first : Logged α} {second : Logged β}
    (built : c.Built related first second) :
    c.Runs floor related (Run.adopt first) (Run.adopt second) := by
  intro context _ _
  exact ⟨built.value, rfl, rfl, built.journal⟩

/-- Scopes in which rules stand for parsers that agree.  Deferred rules matter only where
a parser with a limit up to `bound` can be opened. -/
structure Scopes (c : Comparison σ κ) (floor bound : Nat) (first second : Scope σ ω) :
    Prop where
  inPlace : ∀ name, c.Built (c.Parsers floor) (first.inPlace name) (second.inPlace name)
  deferred : floor < bound → ∀ name,
    c.Built (c.Parsers (floor + 1)) (first.deferred name) (second.deferred name)

def Leafwise (c : Comparison σ κ) [Leaves κ σ ω] : Prop :=
  ∀ {floor : Nat} {name other : Option String} {content content' : κ},
    (c.sameLabels → name = other) → c.leaves content content' →
      c.Parsers floor (Leaves.build name content) (Leaves.build other content')

theorem leafwise_empty {c : Comparison σ Empty} : c.Leafwise :=
  fun {_ _ _} content => nomatch content

theorem Parsers.finish {p q : Parser σ ω Value} (agree : c.Parsers floor p q)
    {finish other : Finish} (varies : finish.Varies c.toVariation other) :
    c.Parsers floor (finish.apply p) (other.apply q) := by
  cases varies with
  | structural => exact agree.labeled agree.label
  | labeled labels => exact agree.labeled labels
  | bare => exact agree

theorem describeChain_eq {p q : Parser σ ω Value} (agree : c.Parsers floor p q) :
    c.Labels (describeChain p) (describeChain q) := by
  intro exactly
  simp only [describeChain, agree.label exactly]

variable [Item ι] [Leaves κ σ ω] {scope scope' : Scope σ ω}

mutual

theorem build_agree (leaves : c.Leafwise) (scopes : c.Scopes floor bound scope scope')
    {grammar other : Grammar ι κ} (varies : grammar.Varies c.toVariation other)
    (within : grammar.depthLimit ≤ bound) {name name' : Option String}
    (names : c.sameLabels → name = name') :
    c.Built (c.Parsers floor) (grammar.build scope name) (other.build scope' name') := by
  have unnamed : c.sameLabels → (none : Option String) = none := fun _ => rfl
  match varies with
  | .leaf same => exact .pure (leaves names same)
  | .exact item => exact .pure (((Parsers.exact item).called names).map Item.toValue)
  | .nextItem labels => exact .pure ((Parsers.nextItem Item.toValue labels).called names)
  | .succeed value labels => exact .pure ((Parsers.succeed value labels).called names)
  | .ownLabel label exactly =>
      exact .pure ((Parsers.ownLabel exactly label Value.text).called names)
  | .here labels =>
      exact .pure ((Parsers.here (fun n => Value.int n) labels).called names)
  | .refuse reason labels => exact .pure ((Parsers.refuse reason labels).called names)
  | .failAfter reason labels inners operand =>
      rw [Grammar.depthLimit] at within
      simp only [Grammar.build]
      have built := build_agree leaves scopes operand within unnamed
      exact built.map fun agree => (agree.failAfter reason labels inners).called names
  | .labeled labels operand =>
      rw [Grammar.depthLimit] at within
      simp only [Grammar.build]
      have built := build_agree leaves scopes operand within unnamed
      exact built.map fun agree => (agree.labeled labels).called names
  | @Grammar.Varies.renamed _ _ _ label other' _ _ labels operand =>
      rw [Grammar.depthLimit] at within
      simp only [Grammar.build]
      have renamed : c.sameLabels → name.or (some label) = name'.or (some other') := by
        intro exactly
        rw [names exactly, labels exactly]
      exact build_agree leaves scopes operand within renamed
  | .renamedFirst free operand =>
      rw [Grammar.depthLimit] at within
      rw [Grammar.build]
      exact build_agree leaves scopes operand within fun exactly => absurd exactly free
  | @Grammar.Varies.renamedSecond _ _ _ label _ q free operand =>
      have renamed : (Grammar.renamed label q).build scope' name' =
          q.build scope' (name'.or (some label)) := by rw [Grammar.build]
      rw [renamed]
      exact build_agree leaves scopes operand within fun exactly => absurd exactly free
  | @Grammar.Varies.attempted _ _ _ _ q attempts operand =>
      have free := (c.attempted attempts).1
      have built : c.Built (c.Parsers floor) (grammar.build scope name) (q.build scope' none) :=
        build_agree leaves scopes operand within fun exactly => absurd exactly free
      have agree : c.Parsers floor ((grammar.build scope name).value.called none)
          ((q.build scope' none).value.attempt.called name') :=
        (built.value.attempted attempts).called fun exactly => absurd exactly free
      have unfolded : (Grammar.attempt q).build scope' name' =
          (do return (← q.build scope' none).attempt.called name') := by rw [Grammar.build]
      rw [unfolded]
      refine ⟨agree, ?_⟩
      simpa using built.journal
  | .relabeled labels operand =>
      rw [Grammar.depthLimit] at within
      simp only [Grammar.build]
      have built := build_agree leaves scopes operand within unnamed
      exact built.map fun agree => (agree.relabeled labels).called names
  | .both first second =>
      rw [Grammar.depthLimit, max_le_iff] at within
      simp only [Grammar.build]
      have left := build_agree leaves scopes first within.1 unnamed
      have right := build_agree leaves scopes second within.2 unnamed
      apply left.bind
      intro _ _ agree
      exact right.map fun agree' => ((agree.both agree').called names).map _
  | .keepFirst first second =>
      rw [Grammar.depthLimit, max_le_iff] at within
      simp only [Grammar.build]
      have left := build_agree leaves scopes first within.1 unnamed
      have right := build_agree leaves scopes second within.2 unnamed
      apply left.bind
      intro _ _ agree
      exact right.map fun agree' => (agree.keepFirst agree').called names
  | .keepSecond first second =>
      rw [Grammar.depthLimit, max_le_iff] at within
      simp only [Grammar.build]
      have left := build_agree leaves scopes first within.1 unnamed
      have right := build_agree leaves scopes second within.2 unnamed
      apply left.bind
      intro _ _ agree
      exact right.map fun agree' => (agree.keepSecond agree').called names
  | .between before after operand =>
      rw [Grammar.depthLimit, max_le_iff, max_le_iff] at within
      simp only [Grammar.build]
      have left := build_agree leaves scopes before within.1 unnamed
      have right := build_agree leaves scopes after within.2.1 unnamed
      have middle := build_agree leaves scopes operand within.2.2 unnamed
      apply left.bind
      intro _ _ opening
      apply right.bind
      intro _ _ closing
      exact middle.map fun inner => (opening.between closing inner).called names
  | .optional operand =>
      rw [Grammar.depthLimit] at within
      simp only [Grammar.build]
      have built := build_agree leaves scopes operand within unnamed
      exact built.map fun agree => (agree.optional.called names).map Value.ofOption
  | .attempt operand =>
      rw [Grammar.depthLimit] at within
      simp only [Grammar.build]
      have built := build_agree leaves scopes operand within unnamed
      exact built.map fun agree => agree.attempt.called names
  | .firstOf alternatives =>
      rw [Grammar.depthLimit] at within
      simp only [Grammar.build]
      have built := buildAll_agree leaves scopes alternatives within
      exact built.map fun agree => (Parsers.firstOf agree).called names
  | .many repetitions operand =>
      rw [Grammar.depthLimit] at within
      simp only [Grammar.build]
      have built := build_agree leaves scopes operand within unnamed
      exact built.map fun agree => ((agree.many repetitions).called names).map Value.list
  | .many1 repetitions operand =>
      rw [Grammar.depthLimit] at within
      simp only [Grammar.build]
      have built := build_agree leaves scopes operand within unnamed
      exact built.map fun agree => ((agree.many1 repetitions).called names).map Value.list
  | .separated repetitions delimiter operand =>
      rw [Grammar.depthLimit, max_le_iff] at within
      simp only [Grammar.build]
      have left := build_agree leaves scopes delimiter within.1 unnamed
      have right := build_agree leaves scopes operand within.2 unnamed
      apply left.bind
      intro _ _ between
      exact right.map fun agree =>
        ((between.separated agree repetitions).called names).map Value.list
  | .separated1 repetitions delimiter operand =>
      rw [Grammar.depthLimit, max_le_iff] at within
      simp only [Grammar.build]
      have left := build_agree leaves scopes delimiter within.1 unnamed
      have right := build_agree leaves scopes operand within.2 unnamed
      apply left.bind
      intro _ _ between
      exact right.map fun agree =>
        ((between.separated1 agree repetitions).called names).map Value.list
  | .map transform operand =>
      rw [Grammar.depthLimit] at within
      simp only [Grammar.build]
      have built := build_agree leaves scopes operand within unnamed
      exact built.map fun agree => (agree.map transform.apply).called names
  | .tryMap check operand =>
      rw [Grammar.depthLimit] at within
      simp only [Grammar.build]
      have built := build_agree leaves scopes operand within unnamed
      exact built.map fun agree => (agree.tryMap check.run Refusal.message).called names
  | .watched tag operand =>
      rw [Grammar.depthLimit] at within
      simp only [Grammar.build]
      have built := build_agree leaves scopes operand within unnamed
      exact built.map fun agree => (agree.watched tag).called names
  | .traced operand =>
      rw [Grammar.depthLimit] at within
      simp only [Grammar.build]
      have built := build_agree leaves scopes operand within unnamed
      exact built.map fun agree => agree.traced.called names
  | .rule target =>
      simp only [Grammar.build]
      have built := scopes.inPlace target
      exact built.map fun agree => agree.called names
  | .deferred target labels deferrals =>
      rw [Grammar.depthLimit] at within
      simp only [Grammar.build]
      refine .pure (Parsers.called (.deferred deferrals labels ?_ ?_) names)
      · intro room
        exact (scopes.deferred (by omega) target).value
      · intro room
        exact (scopes.deferred (by omega) target).journal
  | .chain first steps finish =>
      rw [Grammar.depthLimit, max_le_iff] at within
      simp only [Grammar.build]
      have built := build_agree leaves scopes first within.1 unnamed
      apply built.bind
      intro _ _ start
      have composed := buildSteps_agree leaves scopes steps within.2 start
      exact composed.map fun agree => (agree.finish finish).called names
termination_by structural varies

theorem buildAll_agree (leaves : c.Leafwise) (scopes : c.Scopes floor bound scope scope')
    {grammars others : List (Grammar ι κ)}
    (varies : Grammar.VariesAll c.toVariation grammars others)
    (within : Grammar.depthLimitOfAll grammars ≤ bound) :
    c.Built (List.Forall₂ (c.Parsers floor)) (Grammar.buildAll scope grammars)
      (Grammar.buildAll scope' others) := by
  match varies with
  | .nil => exact .pure .nil
  | .cons first rest =>
      rw [Grammar.depthLimitOfAll, max_le_iff] at within
      simp only [Grammar.buildAll]
      have unnamed : c.sameLabels → (none : Option String) = none := fun _ => rfl
      have built := build_agree leaves scopes first within.1 unnamed
      have later := buildAll_agree leaves scopes rest within.2
      apply built.bind
      intro _ _ head
      exact later.map fun tail => .cons head tail
termination_by structural varies

theorem buildSteps_agree (leaves : c.Leafwise) (scopes : c.Scopes floor bound scope scope')
    {steps others : List (ChainStep (Grammar ι κ))}
    (varies : Grammar.VariesSteps c.toVariation steps others)
    (within : Grammar.depthLimitOfSteps steps ≤ bound) {p q : Parser σ ω Value}
    (before : c.Parsers floor p q) :
    c.Built (c.Parsers floor) (Grammar.buildSteps scope p steps)
      (Grammar.buildSteps scope' q others) := by
  have unnamed : c.sameLabels → (none : Option String) = none := fun _ => rfl
  match varies with
  | .nil => exact .pure before
  | .both next rest =>
      rw [Grammar.depthLimitOfSteps, max_le_iff] at within
      simp only [Grammar.buildSteps]
      have built := build_agree leaves scopes next within.1 unnamed
      apply built.bind
      intro _ _ agree
      exact buildSteps_agree leaves scopes rest within.2 ((before.both agree).map _)
  | .keepSecond next rest =>
      rw [Grammar.depthLimitOfSteps, max_le_iff] at within
      simp only [Grammar.buildSteps]
      have built := build_agree leaves scopes next within.1 unnamed
      apply built.bind
      intro _ _ agree
      exact buildSteps_agree leaves scopes rest within.2 (before.keepSecond agree)
  | .keepFirst next rest =>
      rw [Grammar.depthLimitOfSteps, max_le_iff] at within
      simp only [Grammar.buildSteps]
      have built := build_agree leaves scopes next within.1 unnamed
      apply built.bind
      intro _ _ agree
      exact buildSteps_agree leaves scopes rest within.2 (before.keepFirst agree)
  | .map transform rest =>
      rw [Grammar.depthLimitOfSteps] at within
      simp only [Grammar.buildSteps]
      exact buildSteps_agree leaves scopes rest within (before.map transform.apply)
  | .tryMap check rest =>
      rw [Grammar.depthLimitOfSteps] at within
      simp only [Grammar.buildSteps]
      exact buildSteps_agree leaves scopes rest within (before.tryMap check.run Refusal.message)
  | .copy rest =>
      rw [Grammar.depthLimitOfSteps] at within
      simp only [Grammar.buildSteps]
      exact buildSteps_agree leaves scopes rest within before
  | .look rest =>
      rw [Grammar.depthLimitOfSteps] at within
      simp only [Grammar.buildSteps]
      apply (Built.note (describeChain_eq before)).bind
      intro _ _ _
      exact buildSteps_agree leaves scopes rest within before
termination_by structural varies

end

end Descent.Comparison
