import Descent.Proofs.Congruence.Combinators
import Descent.Proofs.Grammar.Observers

/-!
# Grammars keep congruences

A grammar and the same grammar with or without its observers build related parsers, as
long as the congruence takes what observers write for what is left of it.  Without an
observer a new label would fall to what is observed, so it must not be given to one.
-/

namespace Descent

variable {σ ι κ ω α β γ : Type}

namespace Logged.Alike

theorem imp {related next : α → β → Prop} {first : Logged α} {second : Logged β}
    (made : Alike related first second)
    (weaker : ∀ {left right}, related left right → next left right) : Alike next first second :=
  ⟨weaker made.value, made.journal, made.composed⟩

theorem map_left {related : α → β → Prop} {next : γ → β → Prop} {first : Logged α}
    {second : Logged β} {f : α → γ} (made : Alike related first second)
    (after : ∀ {left right}, related left right → next (f left) right) :
    Alike next (first >>= fun value => Pure.pure (f value)) second := by
  have same : (first >>= fun value => Pure.pure (f value)).journal = first.journal := by simp
  exact ⟨after made.value, same.trans made.journal, same ▸ made.composed⟩

end Logged.Alike

/-- The parser that a grammar stands for comes from an observer that is left out. -/
def Grammar.Hides (kept : Bool) (rules : Rules ι κ) (grammar : Grammar ι κ) : Prop :=
  kept = false ∧ grammar.Observes rules

namespace Congruence

/-- What observers write is related to what is left of it. -/
def Observing [Cursor σ ι ω] (c : Congruence σ) (kept : Bool) : Prop :=
  ∀ event : Event, event.isObservation = true →
    c.Runs (Run.write event) (if kept then Run.write event else Pure.pure ())

/-- Two parsers that are related under their own label, and under any label unless there
is an observer around the first one only. -/
structure ParsersUnless [Cursor σ ι ω] (c : Congruence σ) (hidden : Prop) (p q : Parser σ ω α) :
    Prop where
  parses : c.Parses p q
  parsers : ¬ hidden → c.Parsers p q

variable [Cursor σ ι ω] {c : Congruence σ} {kept : Bool} {hidden last : Prop}

theorem Parsers.unless {p q : Parser σ ω α} (alike : c.Parsers p q) :
    c.ParsersUnless hidden p q :=
  ⟨alike.parses, fun _ => alike⟩

namespace ParsersUnless

theorem imp {p q : Parser σ ω α} (alike : c.ParsersUnless hidden p q) (through : hidden → last) :
    c.ParsersUnless last p q :=
  ⟨alike.parses, fun shown => alike.parsers fun held => shown (through held)⟩

theorem called {p q : Parser σ ω α} (alike : c.ParsersUnless hidden p q) {name : Option String}
    (shown : name.isSome = true → ¬ hidden) :
    c.ParsersUnless hidden (p.called name) (q.called name) := by
  cases name with
  | none => exact alike
  | some label => exact ((alike.parsers (shown rfl)).withLabel label).unless

theorem finish {p q : Parser σ ω Value} (alike : c.ParsersUnless hidden p q) {finish : Finish}
    (through : hidden → finish = .bare → last) :
    c.ParsersUnless last (finish.apply p) (finish.apply q) := by
  cases finish with
  | structural =>
      unfold Finish.apply
      rw [alike.parses.label]
      exact (alike.parses.labeled q.label).unless
  | labeled label => exact (alike.parses.labeled label).unless
  | bare => exact alike.imp fun held => through held rfl

end ParsersUnless

namespace Observing

variable {p q : Parser σ ω Value}

theorem fold (observing : c.Observing kept) {onSuccess : Value → σ → Event}
    {onFailure : Failed σ → Event}
    (success : ∀ value rest, (onSuccess value rest).isObservation = true)
    (failure : ∀ failed, (onFailure failed).isObservation = true) (outcome : Outcome σ Value) :
    c.Runs (Run.write (outcome.fold onSuccess onFailure))
      (if kept then Run.write (outcome.fold onSuccess onFailure) else Pure.pure ()) := by
  cases outcome with
  | success value rest => exact observing _ (success value rest)
  | failure failed => exact observing _ (failure failed)

theorem watched (observing : c.Observing true) (tag : String) (alike : c.Parses p q) :
    c.Parsers (p.watched tag) (q.watched tag) :=
  alike.observed (observing.fold (fun _ _ => rfl) fun _ => rfl)

theorem watched_left (observing : c.Observing false) (tag : String) (alike : c.Parses p q) :
    c.Parses (p.watched tag) q :=
  alike.observed_left (observing.fold (fun _ _ => rfl) fun _ => rfl)

theorem traced (observing : c.Observing true) (alike : c.Parses p q) :
    c.Parsers p.traced q.traced := by
  unfold Parser.traced
  rw [alike.label]
  exact alike.observed (observing.fold (fun _ _ => rfl) fun _ => rfl)

theorem traced_left (observing : c.Observing false) (alike : c.Parses p q) :
    c.Parses p.traced q :=
  alike.observed_left (observing.fold (fun _ _ => rfl) fun _ => rfl)

end Observing

theorem describeChain_eq {p q : Parser σ ω Value} (alike : c.Parses p q) :
    describeChain p = describeChain q := by
  simp only [describeChain, alike.label]

/-- The parser of a leaf is related to itself. -/
def Leafwise (c : Congruence σ) (κ : Type) [Leaves κ σ ω] : Prop :=
  ∀ name (content : κ), c.Parsers (Leaves.build name content) (Leaves.build name content)

/-- Scopes that a grammar with these rules refers to, and the same grammar with or without
observers. -/
structure Scopes (c : Congruence σ) (kept : Bool) (rules : Rules ι κ) (first second : Scope σ ω) :
    Prop where
  inPlace : ∀ name,
    Logged.Alike (c.ParsersUnless ((Grammar.rule name).Hides kept rules)) (first.inPlace name)
      (second.inPlace name)
  deferred : ∀ name, Logged.Alike c.Parses (first.deferred name) (second.deferred name)

/-- If observers are left out, none of them is given a new label. -/
def Unnamed (kept : Bool) (rules : Rules ι κ) (parts : List (Grammar ι κ)) : Prop :=
  kept = false → ∀ part ∈ parts, ¬ part.RenamesObserver rules

namespace Unnamed

variable {rules : Rules ι κ} {first second : List (Grammar ι κ)}

theorem cons {part : Grammar ι κ} (unnamed : Unnamed kept rules (part :: first)) :
    Unnamed kept rules first :=
  fun left inner member => unnamed left inner (List.mem_cons_of_mem _ member)

theorem left (unnamed : Unnamed kept rules (first ++ second)) : Unnamed kept rules first :=
  fun left part member => unnamed left part (List.mem_append_left _ member)

theorem right (unnamed : Unnamed kept rules (first ++ second)) : Unnamed kept rules second :=
  fun left part member => unnamed left part (List.mem_append_right _ member)

end Unnamed

variable [Item ι] [Leaves κ σ ω] {scope scope' : Scope σ ω} {rules : Rules ι κ}

mutual

theorem build_related (observing : c.Observing kept) (leaves : c.Leafwise κ)
    (scopes : c.Scopes kept rules scope scope') (grammar : Grammar ι κ)
    (unnamed : Unnamed kept rules grammar.parts) (name : Option String)
    (shown : name.isSome = true → ¬ grammar.Hides kept rules) :
    Logged.Alike (c.ParsersUnless (grammar.Hides kept rules)) (grammar.build scope name)
      ((grammar.withObservers kept).build scope' name) := by
  cases grammar with
  | leaf content => exact .pure (leaves name content).unless
  | exact item => exact .pure (((Parsers.exact item).called name).parses.map Item.toValue).unless
  | nextItem label => exact .pure ((Parsers.nextItem label Item.toValue).called name).unless
  | succeed label value => exact .pure ((Parsers.succeed label value).called name).unless
  | ownLabel label => exact .pure ((Parsers.ownLabel label Value.text).called name).unless
  | here label => exact .pure ((Parsers.here label fun n => Value.int n).called name).unless
  | refuse label reason => exact .pure ((Parsers.refuse label reason).called name).unless
  | failAfter label inner reason p =>
      simp only [Grammar.withObservers, Grammar.build]
      have built := build_related observing leaves scopes p unnamed.cons none nofun
      apply built.bind
      intro _ _ alike
      exact .pure ((alike.parses.failAfter label inner reason).called name).unless
  | labeled label p =>
      simp only [Grammar.withObservers, Grammar.build]
      have built := build_related observing leaves scopes p unnamed.cons none nofun
      apply built.bind
      intro _ _ alike
      exact .pure ((alike.parses.labeled label).called name).unless
  | renamed label p =>
      simp only [Grammar.withObservers, Grammar.build]
      have shown : ¬ p.Hides kept rules := fun hides =>
        unnamed hides.1 (.renamed label p) (by simp [Grammar.parts]) hides.2
      have built := build_related observing leaves scopes p unnamed.cons
        (name.or (some label)) fun _ => shown
      exact built.imp fun alike => alike.imp fun hides => absurd hides shown
  | relabeled label p =>
      simp only [Grammar.withObservers, Grammar.build]
      have built := build_related observing leaves scopes p unnamed.cons none nofun
      apply built.bind
      intro _ _ alike
      exact .pure ((alike.parses.relabeled label).called name).unless
  | both p q =>
      simp only [Grammar.withObservers, Grammar.build]
      have left := build_related observing leaves scopes p unnamed.cons.left none nofun
      have right := build_related observing leaves scopes q unnamed.cons.right none nofun
      apply left.bind
      intro _ _ first
      apply right.bind
      intro _ _ second
      exact .pure (((first.parses.both second.parses).called name).parses.map _).unless
  | keepFirst p q =>
      simp only [Grammar.withObservers, Grammar.build]
      have left := build_related observing leaves scopes p unnamed.cons.left none nofun
      have right := build_related observing leaves scopes q unnamed.cons.right none nofun
      apply left.bind
      intro _ _ first
      apply right.bind
      intro _ _ second
      exact .pure ((first.parses.keepFirst second.parses).called name).unless
  | keepSecond p q =>
      simp only [Grammar.withObservers, Grammar.build]
      have left := build_related observing leaves scopes p unnamed.cons.left none nofun
      have right := build_related observing leaves scopes q unnamed.cons.right none nofun
      apply left.bind
      intro _ _ first
      apply right.bind
      intro _ _ second
      exact .pure ((first.parses.keepSecond second.parses).called name).unless
  | between before after p =>
      simp only [Grammar.withObservers, Grammar.build]
      have left := build_related observing leaves scopes before unnamed.cons.left none nofun
      have right := build_related observing leaves scopes after unnamed.cons.right.left none nofun
      have middle := build_related observing leaves scopes p unnamed.cons.right.right none nofun
      apply left.bind
      intro _ _ opening
      apply right.bind
      intro _ _ closing
      apply middle.bind
      intro _ _ inner
      exact .pure ((opening.parses.between closing.parses inner.parses).called name).unless
  | optional p =>
      simp only [Grammar.withObservers, Grammar.build]
      have built := build_related observing leaves scopes p unnamed.cons none nofun
      apply built.bind
      intro _ _ alike
      exact .pure ((alike.parses.optional.called name).parses.map Value.ofOption).unless
  | attempt p =>
      simp only [Grammar.withObservers, Grammar.build]
      have built := build_related observing leaves scopes p unnamed.cons none nofun
      apply built.bind
      intro _ _ alike
      exact .pure (alike.parses.attempt.called name).unless
  | firstOf alternatives =>
      simp only [Grammar.withObservers, Grammar.build]
      have built := buildAll_parses observing leaves scopes alternatives unnamed.cons
      apply built.bind
      intro _ _ alike
      exact .pure ((Parses.firstOf alike).called name).unless
  | many p limits =>
      simp only [Grammar.withObservers, Grammar.build]
      have built := build_related observing leaves scopes p unnamed.cons none nofun
      apply built.bind
      intro _ _ alike
      exact .pure (((alike.parses.many limits).called name).parses.map Value.list).unless
  | many1 p limits =>
      simp only [Grammar.withObservers, Grammar.build]
      have built := build_related observing leaves scopes p unnamed.cons none nofun
      apply built.bind
      intro _ _ alike
      exact .pure (((alike.parses.many1 limits).called name).parses.map Value.list).unless
  | separated delimiter p limits =>
      simp only [Grammar.withObservers, Grammar.build]
      have left := build_related observing leaves scopes delimiter unnamed.cons.left none nofun
      have right := build_related observing leaves scopes p unnamed.cons.right none nofun
      apply left.bind
      intro _ _ between
      apply right.bind
      intro _ _ item
      have items := between.parses.separated item.parses limits
      exact .pure ((items.called name).parses.map Value.list).unless
  | separated1 delimiter p limits =>
      simp only [Grammar.withObservers, Grammar.build]
      have left := build_related observing leaves scopes delimiter unnamed.cons.left none nofun
      have right := build_related observing leaves scopes p unnamed.cons.right none nofun
      apply left.bind
      intro _ _ between
      apply right.bind
      intro _ _ item
      have items := between.parses.separated1 item.parses limits
      exact .pure ((items.called name).parses.map Value.list).unless
  | map p transform =>
      simp only [Grammar.withObservers, Grammar.build]
      have built := build_related observing leaves scopes p unnamed.cons none nofun
      apply built.bind
      intro _ _ alike
      exact .pure ((alike.parses.map transform.apply).called name).unless
  | tryMap p check =>
      simp only [Grammar.withObservers, Grammar.build]
      have built := build_related observing leaves scopes p unnamed.cons none nofun
      apply built.bind
      intro _ _ alike
      exact .pure ((alike.parses.tryMap check.run Refusal.message).called name).unless
  | watched tag p =>
      have built := build_related observing leaves scopes p unnamed.cons none nofun
      cases kept with
      | true =>
          simp only [Grammar.withObservers, ↓reduceIte, Grammar.build]
          apply built.bind
          intro _ _ alike
          exact .pure ((observing.watched tag alike.parses).called name).unless
      | false =>
          have hides : (.watched tag p : Grammar ι κ).Hides false rules := ⟨rfl, .watched tag p⟩
          obtain rfl := Option.not_isSome_iff_eq_none.mp fun named => shown named hides
          simp only [Grammar.withObservers, Bool.false_eq_true, ↓reduceIte, Grammar.build]
          apply built.map_left
          intro _ _ alike
          exact ⟨observing.watched_left tag alike.parses, (absurd hides ·)⟩
  | traced p =>
      have built := build_related observing leaves scopes p unnamed.cons none nofun
      cases kept with
      | true =>
          simp only [Grammar.withObservers, ↓reduceIte, Grammar.build]
          apply built.bind
          intro _ _ alike
          exact .pure ((observing.traced alike.parses).called name).unless
      | false =>
          have hides : (.traced p : Grammar ι κ).Hides false rules := ⟨rfl, .traced p⟩
          obtain rfl := Option.not_isSome_iff_eq_none.mp fun named => shown named hides
          simp only [Grammar.withObservers, Bool.false_eq_true, ↓reduceIte, Grammar.build]
          apply built.map_left
          intro _ _ alike
          exact ⟨observing.traced_left alike.parses, (absurd hides ·)⟩
  | rule target =>
      simp only [Grammar.withObservers, Grammar.build]
      have built := scopes.inPlace target
      apply built.bind
      intro _ _ alike
      exact .pure (alike.called shown)
  | deferred label target limits =>
      simp only [Grammar.withObservers, Grammar.build]
      exact .pure ((Parsers.deferred label _ (scopes.deferred target)).called name).unless
  | chain first steps finish =>
      simp only [Grammar.withObservers, Grammar.build]
      have built := build_related observing leaves scopes first unnamed.cons.left none nofun
      apply built.bind
      intro _ _ start
      have composed := buildSteps_related observing leaves scopes steps unnamed.cons.right start
        fun hides idle => And.intro hides idle
      apply composed.bind
      intro _ _ alike
      refine .pure ((alike.finish ?_).called shown)
      rintro ⟨hides, idle⟩ rfl
      exact ⟨hides.1, .chain hides.2 idle⟩

theorem buildAll_parses (observing : c.Observing kept) (leaves : c.Leafwise κ)
    (scopes : c.Scopes kept rules scope scope') (grammars : List (Grammar ι κ))
    (unnamed : Unnamed kept rules (Grammar.partsOfAll grammars)) :
    Logged.Alike (List.Forall₂ c.Parses) (Grammar.buildAll scope grammars)
      (Grammar.buildAll scope' (Grammar.withObserversOfAll kept grammars)) := by
  cases grammars with
  | nil => exact .pure .nil
  | cons p rest =>
      simp only [Grammar.withObserversOfAll, Grammar.buildAll]
      have first := build_related observing leaves scopes p unnamed.left none nofun
      have others := buildAll_parses observing leaves scopes rest unnamed.right
      apply first.bind
      intro _ _ head
      apply others.bind
      intro _ _ tail
      exact .pure (.cons head.parses tail)

/-- A chain that begins with an observer remains one as long as its steps are idle. -/
theorem buildSteps_related (observing : c.Observing kept) (leaves : c.Leafwise κ)
    (scopes : c.Scopes kept rules scope scope') (steps : List (ChainStep (Grammar ι κ)))
    (unnamed : Unnamed kept rules (Grammar.partsOfSteps steps)) {hidden last : Prop}
    {p q : Parser σ ω Value} (before : c.ParsersUnless hidden p q)
    (through : hidden → (∀ step ∈ steps, step.isIdle = true) → last) :
    Logged.Alike (c.ParsersUnless last) (Grammar.buildSteps scope p steps)
      (Grammar.buildSteps scope' q (Grammar.withObserversOfSteps kept steps)) := by
  cases steps with
  | nil => exact .pure (before.imp fun held => through held nofun)
  | cons step rest =>
      cases step with
      | both next =>
          simp only [Grammar.withObserversOfSteps, Grammar.buildSteps]
          have built := build_related observing leaves scopes next unnamed.left none nofun
          apply built.bind
          intro _ _ alike
          exact buildSteps_related observing leaves scopes rest unnamed.right
            ((before.parses.both alike.parses).parses.map _).unless False.elim
      | keepSecond next =>
          simp only [Grammar.withObserversOfSteps, Grammar.buildSteps]
          have built := build_related observing leaves scopes next unnamed.left none nofun
          apply built.bind
          intro _ _ alike
          exact buildSteps_related observing leaves scopes rest unnamed.right
            (before.parses.keepSecond alike.parses).unless False.elim
      | keepFirst next =>
          simp only [Grammar.withObserversOfSteps, Grammar.buildSteps]
          have built := build_related observing leaves scopes next unnamed.left none nofun
          apply built.bind
          intro _ _ alike
          exact buildSteps_related observing leaves scopes rest unnamed.right
            (before.parses.keepFirst alike.parses).unless False.elim
      | map transform =>
          simp only [Grammar.withObserversOfSteps, Grammar.buildSteps]
          exact buildSteps_related observing leaves scopes rest unnamed
            (before.parses.map transform.apply).unless False.elim
      | tryMap check =>
          simp only [Grammar.withObserversOfSteps, Grammar.buildSteps]
          exact buildSteps_related observing leaves scopes rest unnamed
            (before.parses.tryMap check.run Refusal.message).unless False.elim
      | copy =>
          simp only [Grammar.withObserversOfSteps, Grammar.buildSteps]
          exact buildSteps_related observing leaves scopes rest unnamed before
            fun held idle => through held (List.forall_mem_cons.mpr ⟨rfl, idle⟩)
      | look =>
          simp only [Grammar.withObserversOfSteps, Grammar.buildSteps,
            describeChain_eq before.parses]
          apply (Logged.Alike.note _).bind
          intro _ _ _
          exact buildSteps_related observing leaves scopes rest unnamed before
            fun held idle => through held (List.forall_mem_cons.mpr ⟨rfl, idle⟩)

end

theorem inPlace_related (observing : c.Observing kept) (leaves : c.Leafwise κ)
    (unnamed : Unnamed kept rules rules.parts) {later later' : String → Logged (Parser σ ω Value)}
    (deferred : ∀ name, Logged.Alike c.Parses (later name) (later' name)) (budget : Nat)
    (name : String) :
    Logged.Alike (c.ParsersUnless ((Grammar.rule name).Hides kept rules))
      (Rules.inPlace rules later budget name)
      (Rules.inPlace (rules.withObservers kept) later' budget name) := by
  induction budget generalizing name with
  | zero => exact .pure (Parsers.refuse name _).unless
  | succ budget ih =>
      simp only [Rules.inPlace, Rules.lookup_withObservers]
      cases found : rules.lookup name with
      | none => exact .pure (Parsers.refuse name _).unless
      | some grammar =>
          have unnamed : Unnamed kept rules grammar.parts := fun left part member =>
            unnamed left part (Rules.mem_parts_of_lookup found member)
          have scopes : c.Scopes kept rules ⟨Rules.inPlace rules later budget, later⟩
              ⟨Rules.inPlace (rules.withObservers kept) later' budget, later'⟩ := ⟨ih, deferred⟩
          have built := build_related observing leaves scopes grammar unnamed none nofun
          exact built.imp fun alike => alike.imp fun hides => ⟨hides.1, .rule found hides.2⟩

theorem deferred_related (observing : c.Observing kept) (leaves : c.Leafwise κ)
    (unnamed : Unnamed kept rules rules.parts) (levels : Nat) (name : String) :
    Logged.Alike c.Parses (Rules.deferred rules levels name)
      (Rules.deferred (rules.withObservers kept) levels name) := by
  induction levels generalizing name with
  | zero => exact .pure (Parsers.refuse name _).parses
  | succ levels ih =>
      simp only [Rules.deferred, Rules.length_withObservers]
      have built := inPlace_related observing leaves unnamed ih rules.length name
      exact built.imp ParsersUnless.parses

/-- A grammar and the same grammar with or without observers build related parsers in the
scopes of their rules. -/
theorem scoped_related (observing : c.Observing kept) (leaves : c.Leafwise κ)
    {grammar : Grammar ι κ} (unnamed : Unnamed kept rules (grammar.parts ++ rules.parts))
    (levels : Nat) :
    Logged.Alike c.Parses (grammar.build (rules.scope levels) none)
      ((grammar.withObservers kept).build ((rules.withObservers kept).scope levels) none) := by
  have later := deferred_related observing leaves unnamed.right levels
  have scopes : c.Scopes kept rules (rules.scope levels)
      ((rules.withObservers kept).scope levels) := by
    refine ⟨fun name => ?_, later⟩
    simp only [Rules.scope, Rules.length_withObservers]
    exact inPlace_related observing leaves unnamed.right later rules.length name
  have built := build_related observing leaves scopes grammar unnamed.left none nofun
  exact built.imp ParsersUnless.parses

/-- A grammar and the same grammar with or without observers stand for related parsers. -/
theorem parser_related (observing : c.Observing kept) (leaves : c.Leafwise κ)
    {grammar : Grammar ι κ} (unnamed : Unnamed kept rules (grammar.parts ++ rules.parts)) :
    Logged.Alike c.Parses (grammar.parser rules)
      ((grammar.withObservers kept).parser (rules.withObservers kept)) := by
  simp only [Grammar.parser, Grammar.levels_withObservers]
  exact scoped_related observing leaves unnamed _

theorem parse_related (observing : c.Observing kept) (leaves : c.Leafwise κ)
    {grammar : Grammar ι κ} (unnamed : Unnamed kept rules (grammar.parts ++ rules.parts)) (s : σ) :
    c.Runs (grammar.parse rules s)
      ((grammar.withObservers kept).parse (rules.withObservers kept) s) := by
  apply c.adopt (parser_related observing leaves unnamed)
  intro p q alike
  exact alike.parse s

/-- A congruence that takes all entries for themselves relates every parser that a grammar
builds to itself. -/
theorem scoped_self (observing : c.Observing true) (leaves : c.Leafwise κ) (rules : Rules ι κ)
    (levels : Nat) (grammar : Grammar ι κ) :
    c.Parses (grammar.build (rules.scope levels) none).value
      (grammar.build (rules.scope levels) none).value := by
  have unnamed : Unnamed true rules (grammar.parts ++ rules.parts) := nofun
  have related := scoped_related observing leaves unnamed levels
  rw [Grammar.withObservers_true, Rules.withObservers_true] at related
  exact related.value

/-- A congruence that takes all entries for themselves relates every parse to itself. -/
theorem parse_self (observing : c.Observing true) (leaves : c.Leafwise κ) (rules : Rules ι κ)
    (grammar : Grammar ι κ) (s : σ) :
    c.Runs (grammar.parse rules s) (grammar.parse rules s) := by
  have unnamed : Unnamed true rules (grammar.parts ++ rules.parts) := nofun
  have related := parse_related observing leaves unnamed s
  rwa [Grammar.withObservers_true, Rules.withObservers_true] at related

end Congruence

end Descent
