import Descent.Proofs.Conduct.Combinators
import Descent.Proofs.Grammar.Consumption

/-!
# Grammars keep a conduct

What a grammar stands for moves the cursor if the grammar consumes, given that rules stand
for parsers that do what is known of them.  Deferred rules are unfolded level by level; at
each level what is known of a rule follows from what is known of the rules one level down.
-/

namespace Descent.Conduct

variable {σ ι κ ω : Type} [Cursor σ ι ω] {c : Conduct σ} {known : Consumption ι κ}

/-- Stalls are allowed, or the items of repetitions consume something. -/
def Demands (c : Conduct σ) (known : Consumption ι κ) (parts : List (Grammar ι κ)) : Prop :=
  ∀ part ∈ parts, c.stalls ∨ part.loopConsumes known = true

def Leafwise (c : Conduct σ) (known : Consumption ι κ) [Leaves κ σ ω] : Prop :=
  ∀ (name : Option String) (content : κ), c.stalls ∨ known.loops content = true →
    c.Parsers (known.leaves content) (Leaves.build name content)

theorem leafwise_empty {known : Consumption ι Empty} : c.Leafwise known :=
  fun _ content => nomatch content

theorem Parsers.finish {moves : Bool} {p : Parser σ ω Value} (keeps : c.Parsers moves p)
    (finish : Finish) : c.Parsers moves (finish.apply p) := by
  cases finish with
  | structural => exact keeps.labeled p.label
  | labeled label => exact keeps.labeled label
  | bare => exact keeps

section

variable {part : Grammar ι κ} {parts others : List (Grammar ι κ)}

theorem demands_cons :
    c.Demands known (part :: parts) ↔
      (c.stalls ∨ part.loopConsumes known = true) ∧ c.Demands known parts :=
  List.forall_mem_cons

theorem demands_append :
    c.Demands known (parts ++ others) ↔ c.Demands known parts ∧ c.Demands known others :=
  List.forall_mem_append

end

variable [Item ι] [Leaves κ σ ω] {scope : Scope σ ω}

/-- Items, leaves and names do what is known of them. -/
structure Grounds (c : Conduct σ) (known : Consumption ι κ) (scope : Scope σ ω) : Prop where
  items : Cursor.Consumes σ known.items
  leaves : c.Leafwise known
  inPlace : ∀ name, c.Built (c.Parsers (known.inPlace name)) (scope.inPlace name)
  deferred : ∀ name, c.Built (c.Parsers (known.deferred name)) (scope.deferred name)

namespace Grounds

mutual

theorem build_keeps (grounds : c.Grounds known scope) (grammar : Grammar ι κ)
    (demands : c.Demands known grammar.parts) (name : Option String) :
    c.Built (c.Parsers (grammar.consumes known)) (grammar.build scope name) := by
  cases grammar with
  | leaf content =>
      rw [Grammar.parts, demands_cons] at demands
      exact .pure (grounds.leaves name content demands.1)
  | exact item => exact .pure (((Parsers.exact grounds.items item).called name).map Item.toValue)
  | nextItem label =>
      exact .pure ((Parsers.nextItem grounds.items label Item.toValue).called name)
  | succeed label value => exact .pure ((Parsers.succeed label value).called name)
  | ownLabel label => exact .pure ((Parsers.ownLabel label Value.text).called name)
  | here label => exact .pure ((Parsers.here label fun n => Value.int n).called name)
  | refuse label reason => exact .pure ((Parsers.refuse label reason).called name)
  | failAfter label inner reason p =>
      rw [Grammar.parts, demands_cons] at demands
      simp only [Grammar.build]
      have built := grounds.build_keeps p demands.2 none
      exact built.map fun _ keeps => (keeps.failAfter label inner reason).called name
  | labeled label p =>
      rw [Grammar.parts, demands_cons] at demands
      simp only [Grammar.build]
      have built := grounds.build_keeps p demands.2 none
      exact built.map fun _ keeps => (keeps.labeled label).called name
  | renamed label p =>
      rw [Grammar.parts, demands_cons] at demands
      rw [Grammar.build]
      exact grounds.build_keeps p demands.2 (name.or (some label))
  | relabeled label p =>
      rw [Grammar.parts, demands_cons] at demands
      simp only [Grammar.build]
      have built := grounds.build_keeps p demands.2 none
      exact built.map fun _ keeps => (keeps.relabeled label).called name
  | both p q =>
      rw [Grammar.parts, demands_cons, demands_append] at demands
      simp only [Grammar.build]
      have left := grounds.build_keeps p demands.2.1 none
      have right := grounds.build_keeps q demands.2.2 none
      apply left.bind
      intro _ first
      exact right.map fun _ second => ((first.both second).called name).map _
  | keepFirst p q =>
      rw [Grammar.parts, demands_cons, demands_append] at demands
      simp only [Grammar.build]
      have left := grounds.build_keeps p demands.2.1 none
      have right := grounds.build_keeps q demands.2.2 none
      apply left.bind
      intro _ first
      exact right.map fun _ second => (first.keepFirst second).called name
  | keepSecond p q =>
      rw [Grammar.parts, demands_cons, demands_append] at demands
      simp only [Grammar.build]
      have left := grounds.build_keeps p demands.2.1 none
      have right := grounds.build_keeps q demands.2.2 none
      apply left.bind
      intro _ first
      exact right.map fun _ second => (first.keepSecond second).called name
  | between before after p =>
      rw [Grammar.parts, demands_cons, demands_append, demands_append] at demands
      simp only [Grammar.build]
      have left := grounds.build_keeps before demands.2.1 none
      have right := grounds.build_keeps after demands.2.2.1 none
      have middle := grounds.build_keeps p demands.2.2.2 none
      apply left.bind
      intro _ opening
      apply right.bind
      intro _ closing
      exact middle.map fun _ inside => (opening.between closing inside).called name
  | optional p =>
      rw [Grammar.parts, demands_cons] at demands
      simp only [Grammar.build]
      have built := grounds.build_keeps p demands.2 none
      exact built.map fun _ keeps => (keeps.optional.called name).map _
  | attempt p =>
      rw [Grammar.parts, demands_cons] at demands
      simp only [Grammar.build]
      have built := grounds.build_keeps p demands.2 none
      exact built.map fun _ keeps => keeps.attempt.called name
  | firstOf alternatives =>
      rw [Grammar.parts, demands_cons] at demands
      simp only [Grammar.build]
      have built := grounds.buildAll_keeps alternatives demands.2
      exact built.map fun _ keeps => (Parsers.firstOf keeps).called name
  | many p limits =>
      rw [Grammar.parts, demands_cons] at demands
      simp only [Grammar.build]
      have built := grounds.build_keeps p demands.2 none
      exact built.map fun _ keeps => ((keeps.many demands.1 limits).called name).map _
  | many1 p limits =>
      rw [Grammar.parts, demands_cons] at demands
      simp only [Grammar.build]
      have built := grounds.build_keeps p demands.2 none
      exact built.map fun _ keeps => ((keeps.many1 demands.1 limits).called name).map _
  | separated delimiter p limits =>
      rw [Grammar.parts, demands_cons, demands_append] at demands
      simp only [Grammar.build]
      have left := grounds.build_keeps delimiter demands.2.1 none
      have right := grounds.build_keeps p demands.2.2 none
      apply left.bind
      intro _ between
      exact right.map fun _ keeps =>
        ((between.separated keeps demands.1 limits).called name).map _
  | separated1 delimiter p limits =>
      rw [Grammar.parts, demands_cons, demands_append] at demands
      simp only [Grammar.build]
      have left := grounds.build_keeps delimiter demands.2.1 none
      have right := grounds.build_keeps p demands.2.2 none
      apply left.bind
      intro _ between
      exact right.map fun _ keeps =>
        ((between.separated1 keeps demands.1 limits).called name).map _
  | map p transform =>
      rw [Grammar.parts, demands_cons] at demands
      simp only [Grammar.build]
      have built := grounds.build_keeps p demands.2 none
      exact built.map fun _ keeps => (keeps.map transform.apply).called name
  | tryMap p check =>
      rw [Grammar.parts, demands_cons] at demands
      simp only [Grammar.build]
      have built := grounds.build_keeps p demands.2 none
      exact built.map fun _ keeps => (keeps.tryMap check.run Refusal.message).called name
  | watched tag p =>
      rw [Grammar.parts, demands_cons] at demands
      simp only [Grammar.build]
      have built := grounds.build_keeps p demands.2 none
      exact built.map fun _ keeps => (keeps.watched tag).called name
  | traced p =>
      rw [Grammar.parts, demands_cons] at demands
      simp only [Grammar.build]
      have built := grounds.build_keeps p demands.2 none
      exact built.map fun _ keeps => keeps.traced.called name
  | rule target =>
      simp only [Grammar.build]
      exact (grounds.inPlace target).map fun _ keeps => keeps.called name
  | deferred label target limits =>
      have keeps : c.Parsers (known.deferred target)
          (.deferred label limits.maxRecursionDepth fun _ => scope.deferred target) :=
        .deferred (grounds.deferred target) label limits.maxRecursionDepth
      exact .pure (keeps.called name)
  | chain first steps finish =>
      rw [Grammar.parts, demands_cons, demands_append] at demands
      simp only [Grammar.build]
      have built := grounds.build_keeps first demands.2.1 none
      apply built.bind
      intro _ start
      have composed := grounds.buildSteps_keeps steps demands.2.2 start
      exact composed.map fun _ keeps => (keeps.finish finish).called name

theorem buildAll_keeps (grounds : c.Grounds known scope) (grammars : List (Grammar ι κ))
    (demands : c.Demands known (Grammar.partsOfAll grammars)) :
    c.Built (fun ps => ∀ p ∈ ps, c.Parsers (Grammar.allConsume known grammars) p)
      (Grammar.buildAll scope grammars) := by
  cases grammars with
  | nil => exact .pure fun _ member => by cases member
  | cons p rest =>
      rw [Grammar.partsOfAll, demands_append] at demands
      simp only [Grammar.buildAll]
      have built := grounds.build_keeps p demands.1 none
      have later := grounds.buildAll_keeps rest demands.2
      apply built.bind
      intro _ head
      apply later.map
      intro _ tail
      rw [List.forall_mem_cons]
      constructor
      · exact head.weaken fun all => (Bool.and_eq_true_iff.mp all).1
      · intro q member
        exact (tail q member).weaken fun all => (Bool.and_eq_true_iff.mp all).2

theorem buildSteps_keeps (grounds : c.Grounds known scope)
    (steps : List (ChainStep (Grammar ι κ)))
    (demands : c.Demands known (Grammar.partsOfSteps steps)) {moves : Bool} {p : Parser σ ω Value}
    (before : c.Parsers moves p) :
    c.Built (c.Parsers (moves || Grammar.stepsConsume known steps))
      (Grammar.buildSteps scope p steps) := by
  cases steps with
  | nil =>
      rw [Grammar.stepsConsume, Bool.or_false]
      exact .pure before
  | cons step rest =>
      cases step with
      | both q =>
          rw [Grammar.partsOfSteps, demands_append] at demands
          rw [Grammar.stepsConsume, ← Bool.or_assoc]
          simp only [Grammar.buildSteps]
          have built := grounds.build_keeps q demands.1 none
          apply built.bind
          intro _ keeps
          exact grounds.buildSteps_keeps rest demands.2 ((before.both keeps).map _)
      | keepSecond q =>
          rw [Grammar.partsOfSteps, demands_append] at demands
          rw [Grammar.stepsConsume, ← Bool.or_assoc]
          simp only [Grammar.buildSteps]
          have built := grounds.build_keeps q demands.1 none
          apply built.bind
          intro _ keeps
          exact grounds.buildSteps_keeps rest demands.2 (before.keepSecond keeps)
      | keepFirst q =>
          rw [Grammar.partsOfSteps, demands_append] at demands
          rw [Grammar.stepsConsume, ← Bool.or_assoc]
          simp only [Grammar.buildSteps]
          have built := grounds.build_keeps q demands.1 none
          apply built.bind
          intro _ keeps
          exact grounds.buildSteps_keeps rest demands.2 (before.keepFirst keeps)
      | map transform =>
          rw [Grammar.partsOfSteps] at demands
          rw [Grammar.stepsConsume]
          simp only [Grammar.buildSteps]
          exact grounds.buildSteps_keeps rest demands (before.map transform.apply)
      | tryMap check =>
          rw [Grammar.partsOfSteps] at demands
          rw [Grammar.stepsConsume]
          simp only [Grammar.buildSteps]
          exact grounds.buildSteps_keeps rest demands
            (before.tryMap check.run Refusal.message)
      | copy =>
          rw [Grammar.partsOfSteps] at demands
          rw [Grammar.stepsConsume]
          simp only [Grammar.buildSteps]
          exact grounds.buildSteps_keeps rest demands before
      | look =>
          rw [Grammar.partsOfSteps] at demands
          rw [Grammar.stepsConsume]
          simp only [Grammar.buildSteps]
          have note : c.Built (fun _ => True) (Logged.write (.composed (describeChain p))) :=
            ⟨trivial, quiet_singleton Bool.noConfusion⟩
          apply note.bind
          intro _ _
          exact grounds.buildSteps_keeps rest demands before

end

end Grounds

end Descent.Conduct
