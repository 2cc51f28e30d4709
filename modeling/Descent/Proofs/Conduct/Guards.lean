import Descent.Proofs.Conduct.Rules

/-!
# Guards that never step in

A repetition whose items all move the cursor is the same parser with and without its
progress guard.  So grammars that differ in guards only stand for the same parsers.
-/

namespace Descent.Conduct

variable {σ ι κ ω α β : Type} [Cursor σ ι ω] {c : Conduct σ}

namespace Parsers

variable {p : Parser σ ω α} {limits other : Limits}

theorem collect_congr (keeps : c.Parsers true p) (label : String) (guard guard' : Bool)
    (cap : Nat) (s : σ) :
    p.collect label guard cap s = p.collect label guard' cap s := by
  induction cap generalizing s with
  | zero => rfl
  | succ cap ih =>
      refine (keeps.parse s).bind_congr ?_
      intro outcome rests
      cases rests with
      | failure _ => rfl
      | @success value rest moved =>
          have onward : (Cursor.position rest == Cursor.position s) = false :=
            beq_false_of_ne (Nat.ne_of_gt (moved.lt rfl))
          simp only [onward, Bool.and_false, Bool.false_eq_true, if_false, ih rest]

theorem many_congr (keeps : c.Parsers true p)
    (cap : other.maxRepetitions = limits.maxRepetitions) : p.many other = p.many limits := by
  simp only [Parser.many, cap, keeps.collect_congr _ other.requireProgress limits.requireProgress]

theorem many1_congr (keeps : c.Parsers true p)
    (cap : other.maxRepetitions = limits.maxRepetitions) : p.many1 other = p.many1 limits := by
  simp only [Parser.many1, cap, keeps.collect_congr _ other.requireProgress limits.requireProgress]

end Parsers

variable {known : Consumption ι κ} [Item ι] [Leaves κ σ ω]

namespace Grounds

variable {scope : Scope σ ω}

/-- The items of a repetition move the cursor. -/
theorem item_moves (grounds : c.Grounds known scope) (strict : ¬c.stalls) {p : Grammar ι κ}
    (demand : c.stalls ∨ p.consumes known = true) (demands : c.Demands known p.parts) :
    c.Built (c.Parsers true) (p.build scope none) :=
  demand.resolve_left strict ▸ grounds.build_keeps p demands none

mutual

theorem build_guards (grounds : c.Grounds known scope) (strict : ¬c.stalls)
    {grammar other : Grammar ι κ} (demands : c.Demands known grammar.parts)
    (varies : grammar.Varies (.guards κ) other) (name : Option String) :
    other.build scope name = grammar.build scope name := by
  match varies with
  | .leaf same =>
      cases same
      rfl
  | .exact item => rfl
  | .nextItem labels => rw [labels trivial]
  | .succeed value labels => rw [labels trivial]
  | .ownLabel label _ => rfl
  | .here labels => rw [labels trivial]
  | .refuse reason labels => rw [labels trivial]
  | .failAfter reason labels inners operand =>
      rw [Grammar.parts, demands_cons] at demands
      rw [labels trivial, inners trivial, Grammar.build, Grammar.build,
        grounds.build_guards strict demands.2 operand none]
  | .labeled labels operand =>
      rw [Grammar.parts, demands_cons] at demands
      rw [labels trivial, Grammar.build, Grammar.build,
        grounds.build_guards strict demands.2 operand none]
  | .renamed labels operand =>
      rw [Grammar.parts, demands_cons] at demands
      rw [labels trivial, Grammar.build, Grammar.build]
      exact grounds.build_guards strict demands.2 operand _
  | .renamedFirst free _ | .renamedSecond free _ => exact absurd trivial free
  | .attempted attempts _ => exact attempts.elim
  | .relabeled labels operand =>
      rw [Grammar.parts, demands_cons] at demands
      rw [labels trivial, Grammar.build, Grammar.build,
        grounds.build_guards strict demands.2 operand none]
  | .both first second =>
      rw [Grammar.parts, demands_cons, demands_append] at demands
      rw [Grammar.build, Grammar.build,
        grounds.build_guards strict demands.2.1 first none,
        grounds.build_guards strict demands.2.2 second none]
  | .keepFirst first second =>
      rw [Grammar.parts, demands_cons, demands_append] at demands
      rw [Grammar.build, Grammar.build,
        grounds.build_guards strict demands.2.1 first none,
        grounds.build_guards strict demands.2.2 second none]
  | .keepSecond first second =>
      rw [Grammar.parts, demands_cons, demands_append] at demands
      rw [Grammar.build, Grammar.build,
        grounds.build_guards strict demands.2.1 first none,
        grounds.build_guards strict demands.2.2 second none]
  | .between opening closing inside =>
      rw [Grammar.parts, demands_cons, demands_append, demands_append] at demands
      rw [Grammar.build, Grammar.build,
        grounds.build_guards strict demands.2.1 opening none,
        grounds.build_guards strict demands.2.2.1 closing none,
        grounds.build_guards strict demands.2.2.2 inside none]
  | .optional operand =>
      rw [Grammar.parts, demands_cons] at demands
      rw [Grammar.build, Grammar.build,
        grounds.build_guards strict demands.2 operand none]
  | .attempt operand =>
      rw [Grammar.parts, demands_cons] at demands
      rw [Grammar.build, Grammar.build,
        grounds.build_guards strict demands.2 operand none]
  | .firstOf alternatives =>
      rw [Grammar.parts, demands_cons] at demands
      rw [Grammar.build, Grammar.build,
        grounds.buildAll_guards strict demands.2 alternatives]
  | .many cap operand =>
      rw [Grammar.parts, demands_cons] at demands
      have item := grounds.item_moves strict demands.1 demands.2
      rw [Grammar.build, Grammar.build,
        grounds.build_guards strict demands.2 operand none]
      exact item.bind_congr fun _ moves => by rw [moves.many_congr cap]
  | .many1 cap operand =>
      rw [Grammar.parts, demands_cons] at demands
      have item := grounds.item_moves strict demands.1 demands.2
      rw [Grammar.build, Grammar.build,
        grounds.build_guards strict demands.2 operand none]
      exact item.bind_congr fun _ moves => by rw [moves.many1_congr cap]
  | .separated cap between operand =>
      rw [Grammar.parts, demands_cons, demands_append] at demands
      have delimiter := grounds.build_keeps _ demands.2.1 none
      have item := grounds.item_moves strict demands.1 demands.2.2
      rw [Grammar.build, Grammar.build,
        grounds.build_guards strict demands.2.1 between none,
        grounds.build_guards strict demands.2.2 operand none]
      refine delimiter.bind_congr fun _ keeps => item.bind_congr fun _ moves => ?_
      rw [Parser.separated, Parser.separated, (keeps.delimited moves).many_congr cap]
  | .separated1 cap between operand =>
      rw [Grammar.parts, demands_cons, demands_append] at demands
      have delimiter := grounds.build_keeps _ demands.2.1 none
      have item := grounds.item_moves strict demands.1 demands.2.2
      rw [Grammar.build, Grammar.build,
        grounds.build_guards strict demands.2.1 between none,
        grounds.build_guards strict demands.2.2 operand none]
      refine delimiter.bind_congr fun _ keeps => item.bind_congr fun _ moves => ?_
      rw [Parser.separated1, Parser.separated1, (keeps.delimited moves).many1_congr cap]
  | .map transform operand =>
      rw [Grammar.parts, demands_cons] at demands
      rw [Grammar.build, Grammar.build,
        grounds.build_guards strict demands.2 operand none]
  | .tryMap check operand =>
      rw [Grammar.parts, demands_cons] at demands
      rw [Grammar.build, Grammar.build,
        grounds.build_guards strict demands.2 operand none]
  | .watched tag operand =>
      rw [Grammar.parts, demands_cons] at demands
      rw [Grammar.build, Grammar.build,
        grounds.build_guards strict demands.2 operand none]
  | .traced operand =>
      rw [Grammar.parts, demands_cons] at demands
      rw [Grammar.build, Grammar.build,
        grounds.build_guards strict demands.2 operand none]
  | .rule target => rfl
  | .deferred target labels same =>
      cases same
      rw [labels trivial]
  | .chain start later finish =>
      rw [Grammar.parts, demands_cons, demands_append] at demands
      rw [Grammar.build, Grammar.build,
        grounds.build_guards strict demands.2.1 start none]
      have built := grounds.build_keeps _ demands.2.1 none
      refine built.bind_congr fun p _ => ?_
      rw [grounds.buildSteps_guards strict demands.2.2 later p]
      cases finish with
      | structural | bare => rfl
      | labeled labels => rw [labels trivial]
termination_by structural varies

theorem buildAll_guards (grounds : c.Grounds known scope) (strict : ¬c.stalls)
    {grammars others : List (Grammar ι κ)}
    (demands : c.Demands known (Grammar.partsOfAll grammars))
    (varies : Grammar.VariesAll (.guards κ) grammars others) :
    Grammar.buildAll scope others = Grammar.buildAll scope grammars := by
  match varies with
  | .nil => rfl
  | .cons first rest =>
      rw [Grammar.partsOfAll, demands_append] at demands
      rw [Grammar.buildAll, Grammar.buildAll,
        grounds.build_guards strict demands.1 first none,
        grounds.buildAll_guards strict demands.2 rest]
termination_by structural varies

theorem buildSteps_guards (grounds : c.Grounds known scope) (strict : ¬c.stalls)
    {steps others : List (ChainStep (Grammar ι κ))}
    (demands : c.Demands known (Grammar.partsOfSteps steps))
    (varies : Grammar.VariesSteps (.guards κ) steps others) (p : Parser σ ω Value) :
    Grammar.buildSteps scope p others = Grammar.buildSteps scope p steps := by
  match varies with
  | .nil => rfl
  | .both next rest | .keepSecond next rest | .keepFirst next rest =>
      rw [Grammar.partsOfSteps, demands_append] at demands
      rw [Grammar.buildSteps, Grammar.buildSteps,
        grounds.build_guards strict demands.1 next none]
      have built := grounds.build_keeps _ demands.1 none
      exact built.bind_congr fun q _ =>
        grounds.buildSteps_guards strict demands.2 rest _
  | .map _ rest | .tryMap _ rest | .copy rest =>
      rw [Grammar.partsOfSteps] at demands
      rw [Grammar.buildSteps, Grammar.buildSteps]
      exact grounds.buildSteps_guards strict demands rest _
  | .look rest =>
      rw [Grammar.partsOfSteps] at demands
      rw [Grammar.buildSteps, Grammar.buildSteps,
        grounds.buildSteps_guards strict demands rest p]
termination_by structural varies

end

end Grounds

variable {rules others : Rules ι κ} (consuming : Cursor.Consumes σ known.items)
  (leaves : c.Leafwise known) (borne : rules.BearOut known) (strict : ¬c.stalls)

include consuming leaves borne strict

theorem inPlace_guards (demands : c.Demands known rules.parts)
    (varies : rules.Varies (.guards κ) others) {later : String → Logged (Parser σ ω Value)}
    (deferred : ∀ name, c.Built (c.Parsers (known.deferred name)) (later name)) (budget : Nat)
    (name : String) :
    others.inPlace later budget name = rules.inPlace later budget name := by
  induction budget generalizing name with
  | zero => rfl
  | succ budget ih =>
      have both := varies.lookup name
      have same : others.inPlace later budget = rules.inPlace later budget := funext ih
      have grounds : c.Grounds known ⟨rules.inPlace later budget, later⟩ :=
        .of_either consuming leaves (inPlace_keeps consuming leaves borne demands deferred budget)
          deferred
      simp only [Rules.inPlace, same]
      generalize found : rules.lookup name = first at both
      generalize others.lookup name = second at both
      cases both with
      | none => rfl
      | some varies =>
          exact grounds.build_guards strict (demands.lookup found) varies none

theorem deferred_guards (demands : c.Demands known rules.parts)
    (varies : rules.Varies (.guards κ) others) (levels : Nat) :
    (others.deferred levels : String → Logged (Parser σ ω Value)) = rules.deferred levels := by
  induction levels with
  | zero => rfl
  | succ levels ih =>
      funext name
      rw [Rules.deferred, Rules.deferred, ih, varies.length_eq]
      exact inPlace_guards consuming leaves borne strict demands varies
        (deferred_keeps consuming leaves borne demands levels) others.length name

theorem scope_guards (demands : c.Demands known rules.parts)
    (varies : rules.Varies (.guards κ) others) (levels : Nat) :
    (others.scope levels : Scope σ ω) = rules.scope levels := by
  have deferred := deferred_keeps (ω := ω) consuming leaves borne demands levels
  have inPlace := inPlace_guards consuming leaves borne strict demands varies deferred others.length
  rw [Rules.scope, Rules.scope, deferred_guards consuming leaves borne strict demands varies,
    funext inPlace, varies.length_eq]

theorem parse_guards (counted : (Correspondence.counted σ).Leafwise κ)
    {grammar other : Grammar ι κ}
    (demands : c.Demands known (grammar.parts ++ rules.parts))
    (variesRules : rules.Varies (.guards κ) others) (varies : grammar.Varies (.guards κ) other)
    (s : σ) : other.parse others s = grammar.parse rules s := by
  obtain ⟨own, ofRules⟩ := demands_append.mp demands
  have enough := le_max_left (Grammar.levels rules grammar) (Grammar.levels others other)
  have enough' := le_max_right (Grammar.levels rules grammar) (Grammar.levels others other)
  rw [← Grammar.parseIn_scope counted enough, ← Grammar.parseIn_scope counted enough',
    scope_guards consuming leaves borne strict ofRules variesRules, Grammar.parseIn,
    (scope_keeps consuming leaves borne ofRules _).build_guards strict own varies]
  rfl

end Descent.Conduct
