import Descent.Proofs.Correspondence.Combinators
import Descent.Proofs.Grammar.Parts

/-!
# Grammars keep correspondences

A grammar whose nodes a correspondence admits builds corresponding parsers on both
sides.  Deferred rules are unfolded level by level.  The levels on the two sides
need not be equal: as long as there are at least as many as deferred parsers can
still be opened, the stand-in for an exhausted level is never run.
-/

namespace Descent

variable {α β γ δ : Type}

/-- Two values that are made while the same notes on chains are written. -/
structure Logged.Alike (related : α → β → Prop) (first : Logged α) (second : Logged β) :
    Prop where
  value : related first.value second.value
  journal : first.journal = second.journal
  composed : ∀ event ∈ first.journal, ∃ text, event = .composed text

namespace Logged.Alike

theorem pure {related : α → β → Prop} {left : α} {right : β} (holds : related left right) :
    Alike related (Pure.pure left) (Pure.pure right) :=
  ⟨holds, rfl, fun _ member => by cases member⟩

theorem bind {related : α → β → Prop} {next : γ → δ → Prop} {first : Logged α}
    {second : Logged β} {later : α → Logged γ} {last : β → Logged δ}
    (before : Alike related first second)
    (after : ∀ {left right}, related left right → Alike next (later left) (last right)) :
    Alike next (first >>= later) (second >>= last) := by
  have finish := after before.value
  refine ⟨finish.value, ?_, ?_⟩
  · rw [journal_bind, journal_bind, before.journal, finish.journal]
  · intro event member
    rw [journal_bind, List.mem_append] at member
    exact member.elim (before.composed event) (finish.composed event)

theorem note (text : String) :
    Alike Eq (Logged.write (.composed text)) (Logged.write (.composed text)) :=
  ⟨rfl, rfl, fun _ member => ⟨text, List.mem_singleton.mp member⟩⟩

end Logged.Alike

theorem JournalRelation.relates_composed (journals : JournalRelation) {journal : Journal}
    (composed : ∀ event ∈ journal, ∃ text, event = .composed text) (depth : Nat) :
    journals.relates depth journal journal := by
  induction journal with
  | nil => exact journals.nil depth
  | cons event rest ih =>
      obtain ⟨text, rfl⟩ := composed event (by simp)
      have tail := ih fun event member => composed event (by simp [member])
      exact journals.append (journals.composed depth text) tail

namespace Correspondence

variable {σ τ ι κ ω υ : Type} [Cursor σ ι ω] [Cursor τ ι υ] {c : Correspondence σ τ}
  {floor bound : Nat}

theorem Runs.adopt {related : α → β → Prop} {first : Logged α} {second : Logged β}
    (alike : Logged.Alike related first second) :
    c.Runs floor related (Run.adopt first) (Run.adopt second) := by
  intro depth _ left right together
  have notes := c.journals.relates_composed alike.composed depth
  refine ⟨alike.value, together, ?_, rfl, rfl⟩
  simp only [Run.adopt, ← alike.journal]
  exact notes

/-- Inside a deferred parser one more is open.  What it builds matters only where it
can be opened at all. -/
theorem Parsers.deferred {build : Unit → Logged (Parser σ ω α)}
    {build' : Unit → Logged (Parser τ υ α)} (label : String) (limit : Nat)
    (alike : floor < limit →
      Logged.Alike (c.Parsers (floor + 1)) (build ()) (build' ())) :
    c.Parsers floor (.deferred label limit build) (.deferred label limit build') := by
  refine ⟨rfl, fun current s t there depth above left right together => ?_⟩
  by_cases room : depth < limit
  · have built := alike (by omega)
    have inner := built.value.parse there (depth + 1) (by omega) left right together
    have notes := c.journals.relates_composed built.composed (depth + 1)
    rw [Parser.deferred_run_open room, Parser.deferred_run_open room]
    refine ⟨inner.value, inner.shared, ?_, ?_, ?_⟩
    · rw [← built.journal]
      exact c.journals.bracketed current (c.journals.append notes inner.journal)
    · simp [inner.firstDepth]
    · simp [inner.secondDepth]
  · have full : limit ≤ depth := by omega
    rw [Parser.deferred_run_full full, Parser.deferred_run_full full]
    exact ⟨.fail there current _, together,
      c.journals.tooDeep current full (c.entryPositions there), rfl, rfl⟩

/-- What a correspondence demands of a node of a grammar. -/
def Admits (c : Correspondence σ τ) : Grammar ι κ → Prop
  | .exact item => c.expects item
  | .here _ => c.tellsPositions
  | _ => True

theorem Admits.of_all (expects : ∀ item, c.expects item) (tells : c.tellsPositions)
    (part : Grammar ι κ) : c.Admits part := by
  cases part with
  | exact item => exact expects item
  | here label => exact tells
  | _ => trivial

/-- Scopes in which rules stand for corresponding parsers.  Deferred rules matter only
where a parser with a limit up to `bound` can be opened. -/
structure Scopes (c : Correspondence σ τ) (floor bound : Nat) (first : Scope σ ω)
    (second : Scope τ υ) : Prop where
  inPlace : ∀ name, Logged.Alike (c.Parsers floor) (first.inPlace name) (second.inPlace name)
  deferred : floor < bound → ∀ name,
    Logged.Alike (c.Parsers (floor + 1)) (first.deferred name) (second.deferred name)

/-- The nodes of a grammar are admitted and their limits are within a bound. -/
def Fits (c : Correspondence σ τ) (bound : Nat) (parts : List (Grammar ι κ)) : Prop :=
  ∀ part ∈ parts, c.Admits part ∧ part.depthLimit ≤ bound

theorem Fits.cons {part : Grammar ι κ} {parts : List (Grammar ι κ)}
    (fits : c.Fits bound (part :: parts)) : c.Fits bound parts :=
  fun inner member => fits inner (List.mem_cons_of_mem _ member)

theorem Fits.left {first second : List (Grammar ι κ)}
    (fits : c.Fits bound (first ++ second)) : c.Fits bound first :=
  fun part member => fits part (List.mem_append_left _ member)

theorem Fits.right {first second : List (Grammar ι κ)}
    (fits : c.Fits bound (first ++ second)) : c.Fits bound second :=
  fun part member => fits part (List.mem_append_right _ member)

theorem Fits.of_grammar {grammar : Grammar ι κ}
    (admitted : ∀ part ∈ grammar.parts, c.Admits part)
    (within : grammar.depthLimit ≤ bound) : c.Fits bound grammar.parts :=
  fun part member =>
    ⟨admitted part member, (Grammar.depthLimit_le_of_mem_parts member).trans within⟩

theorem Fits.of_rules {rules : Rules ι κ} (admitted : ∀ part ∈ rules.parts, c.Admits part)
    (within : rules.depthLimit ≤ bound) : c.Fits bound rules.parts :=
  fun part member => ⟨admitted part member, (Rules.depthLimit_le_of_mem member).trans within⟩

/-- Leaves stand for corresponding parsers, at any depth. -/
def Leafwise (c : Correspondence σ τ) (κ : Type) [Leaves κ σ ω] [Leaves κ τ υ] : Prop :=
  ∀ floor name (content : κ),
    c.Parsers floor (Leaves.build name content) (Leaves.build name content)

/-- Grammars without leaves of their own have nothing to compare. -/
theorem leafwise_empty : c.Leafwise Empty := fun _ _ content => nomatch content

theorem Parsers.finish {p : Parser σ ω Value} {q : Parser τ υ Value}
    (alike : c.Parsers floor p q) (finish : Finish) :
    c.Parsers floor (finish.apply p) (finish.apply q) := by
  cases finish with
  | structural =>
      unfold Finish.apply
      rw [alike.label]
      exact alike.labeled q.label
  | labeled label => exact alike.labeled label
  | bare => exact alike

theorem describeChain_eq {p : Parser σ ω Value} {q : Parser τ υ Value}
    (alike : c.Parsers floor p q) : describeChain p = describeChain q := by
  simp only [describeChain, alike.label]

variable [Item ι] [Leaves κ σ ω] [Leaves κ τ υ] {scope : Scope σ ω} {scope' : Scope τ υ}

mutual

theorem build_alike (leaves : c.Leafwise κ) (scopes : c.Scopes floor bound scope scope')
    (grammar : Grammar ι κ) (fits : c.Fits bound grammar.parts) (name : Option String) :
    Logged.Alike (c.Parsers floor) (grammar.build scope name) (grammar.build scope' name) := by
  have admitted := fits grammar
  cases grammar with
  | leaf content => exact .pure (leaves floor name content)
  | exact item =>
      rw [Grammar.parts] at admitted
      exact .pure (((Parsers.exact (admitted (by simp)).1).called name).map Item.toValue)
  | nextItem label => exact .pure ((Parsers.nextItem label Item.toValue).called name)
  | succeed label value => exact .pure ((Parsers.succeed label value).called name)
  | ownLabel label => exact .pure ((Parsers.ownLabel label Value.text).called name)
  | here label =>
      rw [Grammar.parts] at admitted
      exact .pure ((Parsers.here (admitted (by simp)).1 label fun n => Value.int n).called name)
  | refuse label reason => exact .pure ((Parsers.refuse label reason).called name)
  | failAfter label inner reason p =>
      simp only [Grammar.build]
      have built := build_alike leaves scopes p fits.cons none
      apply built.bind
      intro _ _ alike
      exact .pure ((alike.failAfter label inner reason).called name)
  | labeled label p =>
      simp only [Grammar.build]
      have built := build_alike leaves scopes p fits.cons none
      apply built.bind
      intro _ _ alike
      exact .pure ((alike.labeled label).called name)
  | renamed label p =>
      simp only [Grammar.build]
      exact build_alike leaves scopes p fits.cons (name.or (some label))
  | relabeled label p =>
      simp only [Grammar.build]
      have built := build_alike leaves scopes p fits.cons none
      apply built.bind
      intro _ _ alike
      exact .pure ((alike.relabeled label).called name)
  | both p q =>
      simp only [Grammar.build]
      have left := build_alike leaves scopes p fits.cons.left none
      have right := build_alike leaves scopes q fits.cons.right none
      apply left.bind
      intro _ _ first
      apply right.bind
      intro _ _ second
      exact .pure (((first.both second).called name).map _)
  | keepFirst p q =>
      simp only [Grammar.build]
      have left := build_alike leaves scopes p fits.cons.left none
      have right := build_alike leaves scopes q fits.cons.right none
      apply left.bind
      intro _ _ first
      apply right.bind
      intro _ _ second
      exact .pure ((first.keepFirst second).called name)
  | keepSecond p q =>
      simp only [Grammar.build]
      have left := build_alike leaves scopes p fits.cons.left none
      have right := build_alike leaves scopes q fits.cons.right none
      apply left.bind
      intro _ _ first
      apply right.bind
      intro _ _ second
      exact .pure ((first.keepSecond second).called name)
  | between before after p =>
      simp only [Grammar.build]
      have left := build_alike leaves scopes before fits.cons.left none
      have right := build_alike leaves scopes after fits.cons.right.left none
      have middle := build_alike leaves scopes p fits.cons.right.right none
      apply left.bind
      intro _ _ opening
      apply right.bind
      intro _ _ closing
      apply middle.bind
      intro _ _ inner
      exact .pure ((opening.between closing inner).called name)
  | optional p =>
      simp only [Grammar.build]
      have built := build_alike leaves scopes p fits.cons none
      apply built.bind
      intro _ _ alike
      exact .pure ((alike.optional.called name).map Value.ofOption)
  | attempt p =>
      simp only [Grammar.build]
      have built := build_alike leaves scopes p fits.cons none
      apply built.bind
      intro _ _ alike
      exact .pure (alike.attempt.called name)
  | firstOf alternatives =>
      simp only [Grammar.build]
      have built := buildAll_alike leaves scopes alternatives fits.cons
      apply built.bind
      intro _ _ alike
      exact .pure ((Parsers.firstOf alike).called name)
  | many p limits =>
      simp only [Grammar.build]
      have built := build_alike leaves scopes p fits.cons none
      apply built.bind
      intro _ _ alike
      exact .pure (((alike.many limits).called name).map Value.list)
  | many1 p limits =>
      simp only [Grammar.build]
      have built := build_alike leaves scopes p fits.cons none
      apply built.bind
      intro _ _ alike
      exact .pure (((alike.many1 limits).called name).map Value.list)
  | separated delimiter p limits =>
      simp only [Grammar.build]
      have left := build_alike leaves scopes delimiter fits.cons.left none
      have right := build_alike leaves scopes p fits.cons.right none
      apply left.bind
      intro _ _ between
      apply right.bind
      intro _ _ item
      exact .pure (((between.separated item limits).called name).map Value.list)
  | separated1 delimiter p limits =>
      simp only [Grammar.build]
      have left := build_alike leaves scopes delimiter fits.cons.left none
      have right := build_alike leaves scopes p fits.cons.right none
      apply left.bind
      intro _ _ between
      apply right.bind
      intro _ _ item
      exact .pure (((between.separated1 item limits).called name).map Value.list)
  | map p transform =>
      simp only [Grammar.build]
      have built := build_alike leaves scopes p fits.cons none
      apply built.bind
      intro _ _ alike
      exact .pure ((alike.map transform.apply).called name)
  | tryMap p check =>
      simp only [Grammar.build]
      have built := build_alike leaves scopes p fits.cons none
      apply built.bind
      intro _ _ alike
      exact .pure ((alike.tryMap check.run Refusal.message).called name)
  | watched tag p =>
      simp only [Grammar.build]
      have built := build_alike leaves scopes p fits.cons none
      apply built.bind
      intro _ _ alike
      exact .pure ((alike.watched tag).called name)
  | traced p =>
      simp only [Grammar.build]
      have built := build_alike leaves scopes p fits.cons none
      apply built.bind
      intro _ _ alike
      exact .pure (alike.traced.called name)
  | rule target =>
      simp only [Grammar.build]
      have built := scopes.inPlace target
      apply built.bind
      intro _ _ alike
      exact .pure (alike.called name)
  | deferred label target limits =>
      rw [Grammar.parts] at admitted
      have within := (admitted (by simp)).2
      rw [Grammar.depthLimit] at within
      simp only [Grammar.build]
      refine .pure (Parsers.called (.deferred label _ fun room => ?_) name)
      exact scopes.deferred (by omega) target
  | chain first steps finish =>
      simp only [Grammar.build]
      have built := build_alike leaves scopes first fits.cons.left none
      apply built.bind
      intro _ _ start
      have composed := buildSteps_alike leaves scopes steps fits.cons.right start
      apply composed.bind
      intro _ _ alike
      exact .pure ((alike.finish finish).called name)

theorem buildAll_alike (leaves : c.Leafwise κ) (scopes : c.Scopes floor bound scope scope')
    (grammars : List (Grammar ι κ)) (fits : c.Fits bound (Grammar.partsOfAll grammars)) :
    Logged.Alike (List.Forall₂ (c.Parsers floor)) (Grammar.buildAll scope grammars)
      (Grammar.buildAll scope' grammars) := by
  cases grammars with
  | nil => exact .pure .nil
  | cons p rest =>
      simp only [Grammar.buildAll]
      have first := build_alike leaves scopes p fits.left none
      have others := buildAll_alike leaves scopes rest fits.right
      apply first.bind
      intro _ _ head
      apply others.bind
      intro _ _ tail
      exact .pure (.cons head tail)

theorem buildSteps_alike (leaves : c.Leafwise κ) (scopes : c.Scopes floor bound scope scope')
    (steps : List (ChainStep (Grammar ι κ))) (fits : c.Fits bound (Grammar.partsOfSteps steps))
    {p : Parser σ ω Value} {q : Parser τ υ Value} (before : c.Parsers floor p q) :
    Logged.Alike (c.Parsers floor) (Grammar.buildSteps scope p steps)
      (Grammar.buildSteps scope' q steps) := by
  cases steps with
  | nil => exact .pure before
  | cons step rest =>
      cases step with
      | both next =>
          simp only [Grammar.buildSteps]
          have built := build_alike leaves scopes next fits.left none
          apply built.bind
          intro _ _ alike
          exact buildSteps_alike leaves scopes rest fits.right ((before.both alike).map _)
      | keepSecond next =>
          simp only [Grammar.buildSteps]
          have built := build_alike leaves scopes next fits.left none
          apply built.bind
          intro _ _ alike
          exact buildSteps_alike leaves scopes rest fits.right (before.keepSecond alike)
      | keepFirst next =>
          simp only [Grammar.buildSteps]
          have built := build_alike leaves scopes next fits.left none
          apply built.bind
          intro _ _ alike
          exact buildSteps_alike leaves scopes rest fits.right (before.keepFirst alike)
      | map transform =>
          simp only [Grammar.buildSteps]
          exact buildSteps_alike leaves scopes rest fits (before.map transform.apply)
      | tryMap check =>
          simp only [Grammar.buildSteps]
          exact buildSteps_alike leaves scopes rest fits
            (before.tryMap check.run Refusal.message)
      | copy =>
          simp only [Grammar.buildSteps]
          exact buildSteps_alike leaves scopes rest fits before
      | look =>
          simp only [Grammar.buildSteps, describeChain_eq before]
          apply (Logged.Alike.note _).bind
          intro _ _ _
          exact buildSteps_alike leaves scopes rest fits before

end

variable {rules : Rules ι κ}

theorem inPlace_alike (leaves : c.Leafwise κ) (fits : c.Fits bound rules.parts)
    {later : String → Logged (Parser σ ω Value)} {later' : String → Logged (Parser τ υ Value)}
    (deferred : floor < bound → ∀ name,
      Logged.Alike (c.Parsers (floor + 1)) (later name) (later' name))
    (budget : Nat) (name : String) :
    Logged.Alike (c.Parsers floor) (Rules.inPlace rules later budget name)
      (Rules.inPlace rules later' budget name) := by
  induction budget generalizing name with
  | zero => exact .pure (.refuse name _)
  | succ budget ih =>
      simp only [Rules.inPlace]
      cases found : rules.lookup name with
      | none => exact .pure (.refuse name _)
      | some grammar =>
          have fitsGrammar : c.Fits bound grammar.parts := fun part member =>
            fits part (Rules.mem_parts_of_lookup found member)
          exact build_alike leaves ⟨ih, deferred⟩ grammar fitsGrammar none

/-- Every level that is used up is matched by a deferred parser that is open, so
`floor + levels` stays at least `bound` and an exhausted level is out of reach. -/
theorem scopes_alike (leaves : c.Leafwise κ) (fits : c.Fits bound rules.parts)
    {levels levels' : Nat} (enough : bound ≤ floor + levels)
    (enough' : bound ≤ floor + levels') :
    c.Scopes floor bound (rules.scope levels : Scope σ ω) (rules.scope levels' : Scope τ υ) := by
  induction levels generalizing floor levels' with
  | zero =>
      have exhausted : ¬ floor < bound := by omega
      exact ⟨inPlace_alike leaves fits (absurd · exhausted) rules.length, (absurd · exhausted)⟩
  | succ levels ih =>
      have opened : floor < bound → ∀ name,
          Logged.Alike (c.Parsers (floor + 1))
            (Rules.deferred rules (levels + 1) name : Logged (Parser σ ω Value))
            (Rules.deferred rules levels' name : Logged (Parser τ υ Value)) := by
        intro room name
        cases levels' with
        | zero => omega
        | succ levels' =>
            have inner : c.Scopes (floor + 1) bound (rules.scope levels : Scope σ ω)
                (rules.scope levels' : Scope τ υ) := ih (by omega) (by omega)
            exact inner.inPlace name
      exact ⟨inPlace_alike leaves fits opened rules.length, opened⟩

/-- A grammar in the scope of its rules builds corresponding parsers, whatever the
levels on the two sides. -/
theorem scoped_alike (leaves : c.Leafwise κ) (fitsRules : c.Fits bound rules.parts)
    {grammar : Grammar ι κ} (fits : c.Fits bound grammar.parts) {levels levels' : Nat}
    (enough : bound ≤ floor + levels) (enough' : bound ≤ floor + levels') :
    Logged.Alike (c.Parsers floor) (grammar.build (rules.scope levels : Scope σ ω) none)
      (grammar.build (rules.scope levels' : Scope τ υ) none) :=
  build_alike leaves (scopes_alike leaves fitsRules enough enough') grammar fits none

/-- A grammar with rules whose nodes are all admitted stands for corresponding
parsers. -/
theorem parser_alike (leaves : c.Leafwise κ) {grammar : Grammar ι κ}
    (admitted : ∀ part ∈ grammar.parts, c.Admits part)
    (admittedRules : ∀ part ∈ rules.parts, c.Admits part) :
    Logged.Alike (c.Parsers 0) (grammar.parser rules : Logged (Parser σ ω Value))
      (grammar.parser rules : Logged (Parser τ υ Value)) :=
  scoped_alike leaves (.of_rules admittedRules (le_max_right _ _))
    (.of_grammar admitted (le_max_left _ _)) (Nat.le_add_left _ _) (Nat.le_add_left _ _)

end Correspondence

section

variable {σ τ ι κ ω υ : Type} [Cursor σ ι ω] [Cursor τ ι υ] [Item ι] [Leaves κ σ ω]
  [Leaves κ τ υ] {c : Correspondence σ τ}

/-- Builds the parser of a grammar and runs it. -/
def Grammar.parse (rules : Rules ι κ) (grammar : Grammar ι κ) (s : σ) :
    Run ω (Outcome σ Value) := do
  let p ← Run.adopt (grammar.parser rules)
  p.parse s

theorem Grammar.parse_apply (rules : Rules ι κ) (grammar : Grammar ι κ) (s : σ)
    (context : Context ω) :
    grammar.parse rules s context =
      let built : Logged (Parser σ ω Value) := grammar.parser rules
      let step := built.value.parse s context
      ⟨step.value, step.context, built.journal ++ step.journal⟩ := rfl

namespace Correspondence

theorem parse_alike (leaves : c.Leafwise κ) (rules : Rules ι κ) (grammar : Grammar ι κ)
    (admitted : ∀ part ∈ grammar.parts, c.Admits part)
    (admittedRules : ∀ part ∈ rules.parts, c.Admits part) {s : σ} {t : τ}
    (there : c.cursors s t) :
    c.Runs 0 c.Outcomes (grammar.parse rules s) (grammar.parse rules t) := by
  have built := parser_alike leaves admitted admittedRules
  apply Runs.bind (.adopt built)
  intro _ _ alike
  exact alike.parse there

theorem parse_alike_of_all (leaves : c.Leafwise κ) (expects : ∀ item, c.expects item)
    (tells : c.tellsPositions) (rules : Rules ι κ) (grammar : Grammar ι κ) {s : σ} {t : τ}
    (there : c.cursors s t) :
    c.Runs 0 c.Outcomes (grammar.parse rules s) (grammar.parse rules t) :=
  parse_alike leaves rules grammar (fun part _ => .of_all expects tells part)
    (fun part _ => .of_all expects tells part) there

end Correspondence

end

end Descent
