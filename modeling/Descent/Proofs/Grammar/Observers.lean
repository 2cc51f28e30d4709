import Descent.Proofs.Grammar.Parts

/-!
# Grammars without observers

Leaving out the observers of a grammar puts in the place of each one what it observes.
A grammar stands for an observer if it is one, or comes to one without composing anything:
through names of rules, new labels, or a chain that ends as it began.
-/

namespace Descent

variable {ι κ : Type}

/-- Whether a step leaves the chain as it is. -/
def ChainStep.isIdle {γ : Type} : ChainStep γ → Bool
  | .copy | .look => true
  | _ => false

namespace Grammar

/-- The parser that a grammar stands for is the one that an observer makes. -/
inductive Observes (rules : Rules ι κ) : Grammar ι κ → Prop where
  | watched (tag : String) (p : Grammar ι κ) : Observes rules (.watched tag p)
  | traced (p : Grammar ι κ) : Observes rules (.traced p)
  | renamed {label : String} {p : Grammar ι κ} :
      Observes rules p → Observes rules (.renamed label p)
  | rule {name : String} {p : Grammar ι κ} :
      rules.lookup name = some p → Observes rules p → Observes rules (.rule name)
  | chain {first : Grammar ι κ} {steps : List (ChainStep (Grammar ι κ))} :
      Observes rules first → (∀ step ∈ steps, step.isIdle = true) →
        Observes rules (.chain first steps .bare)

/-- Whether a node gives a new label to an observer. -/
def RenamesObserver (rules : Rules ι κ) : Grammar ι κ → Prop
  | .renamed _ p => p.Observes rules
  | _ => False

mutual

/-- A grammar with its observers, or with what they observe in their place. -/
def withObservers (kept : Bool) : Grammar ι κ → Grammar ι κ
  | .leaf content => .leaf content
  | .exact item => .exact item
  | .nextItem label => .nextItem label
  | .succeed label value => .succeed label value
  | .ownLabel label => .ownLabel label
  | .here label => .here label
  | .refuse label reason => .refuse label reason
  | .failAfter label inner reason p => .failAfter label inner reason (withObservers kept p)
  | .labeled label p => .labeled label (withObservers kept p)
  | .renamed label p => .renamed label (withObservers kept p)
  | .relabeled label p => .relabeled label (withObservers kept p)
  | .both p q => .both (withObservers kept p) (withObservers kept q)
  | .keepFirst p q => .keepFirst (withObservers kept p) (withObservers kept q)
  | .keepSecond p q => .keepSecond (withObservers kept p) (withObservers kept q)
  | .between before after p =>
      .between (withObservers kept before) (withObservers kept after) (withObservers kept p)
  | .optional p => .optional (withObservers kept p)
  | .attempt p => .attempt (withObservers kept p)
  | .firstOf alternatives => .firstOf (withObserversOfAll kept alternatives)
  | .many p limits => .many (withObservers kept p) limits
  | .many1 p limits => .many1 (withObservers kept p) limits
  | .separated delimiter p limits =>
      .separated (withObservers kept delimiter) (withObservers kept p) limits
  | .separated1 delimiter p limits =>
      .separated1 (withObservers kept delimiter) (withObservers kept p) limits
  | .map p transform => .map (withObservers kept p) transform
  | .tryMap p check => .tryMap (withObservers kept p) check
  | .watched tag p =>
      if kept then .watched tag (withObservers kept p) else withObservers kept p
  | .traced p => if kept then .traced (withObservers kept p) else withObservers kept p
  | .rule name => .rule name
  | .deferred label name limits => .deferred label name limits
  | .chain first steps finish =>
      .chain (withObservers kept first) (withObserversOfSteps kept steps) finish

/-- Several grammars with or without their observers. -/
def withObserversOfAll (kept : Bool) : List (Grammar ι κ) → List (Grammar ι κ)
  | [] => []
  | p :: rest => withObservers kept p :: withObserversOfAll kept rest

/-- The steps of a chain with or without their observers. -/
def withObserversOfSteps (kept : Bool) :
    List (ChainStep (Grammar ι κ)) → List (ChainStep (Grammar ι κ))
  | [] => []
  | .both q :: rest => .both (withObservers kept q) :: withObserversOfSteps kept rest
  | .keepSecond q :: rest =>
      .keepSecond (withObservers kept q) :: withObserversOfSteps kept rest
  | .keepFirst q :: rest => .keepFirst (withObservers kept q) :: withObserversOfSteps kept rest
  | .map transform :: rest => .map transform :: withObserversOfSteps kept rest
  | .tryMap check :: rest => .tryMap check :: withObserversOfSteps kept rest
  | .copy :: rest => .copy :: withObserversOfSteps kept rest
  | .look :: rest => .look :: withObserversOfSteps kept rest

end

/-- A grammar in which each observer is replaced by what it observes. -/
def withoutObservers (grammar : Grammar ι κ) : Grammar ι κ := grammar.withObservers false

mutual

@[simp] theorem withObservers_true (grammar : Grammar ι κ) :
    grammar.withObservers true = grammar := by
  cases grammar with
  | leaf | exact | nextItem | succeed | ownLabel | here | refuse | rule | deferred => rfl
  | failAfter _ _ _ p | labeled _ p | renamed _ p | relabeled _ p | optional p | attempt p
  | many p | many1 p | map p | tryMap p =>
      simp only [withObservers, withObservers_true p]
  | watched _ p | traced p => simp only [withObservers, withObservers_true p, ↓reduceIte]
  | both p q | keepFirst p q | keepSecond p q | separated p q | separated1 p q =>
      simp only [withObservers, withObservers_true p, withObservers_true q]
  | between before after p =>
      simp only [withObservers, withObservers_true before, withObservers_true after,
        withObservers_true p]
  | firstOf alternatives => simp only [withObservers, withObserversOfAll_true alternatives]
  | chain first steps =>
      simp only [withObservers, withObservers_true first, withObserversOfSteps_true steps]

theorem withObserversOfAll_true (grammars : List (Grammar ι κ)) :
    withObserversOfAll true grammars = grammars := by
  cases grammars with
  | nil => rfl
  | cons p rest =>
      simp only [withObserversOfAll, withObservers_true p, withObserversOfAll_true rest]

theorem withObserversOfSteps_true (steps : List (ChainStep (Grammar ι κ))) :
    withObserversOfSteps true steps = steps := by
  cases steps with
  | nil => rfl
  | cons step rest =>
      cases step with
      | both q | keepSecond q | keepFirst q =>
          simp only [withObserversOfSteps, withObservers_true q, withObserversOfSteps_true rest]
      | map | tryMap | copy | look =>
          simp only [withObserversOfSteps, withObserversOfSteps_true rest]

end

mutual

theorem depthLimit_withObservers (kept : Bool) (grammar : Grammar ι κ) :
    (grammar.withObservers kept).depthLimit = grammar.depthLimit := by
  cases grammar with
  | leaf | exact | nextItem | succeed | ownLabel | here | refuse | rule | deferred => rfl
  | failAfter _ _ _ p | labeled _ p | renamed _ p | relabeled _ p | optional p | attempt p
  | many p | many1 p | map p | tryMap p =>
      simp only [withObservers, depthLimit, depthLimit_withObservers kept p]
  | watched _ p | traced p =>
      cases kept <;> simp only [withObservers, depthLimit, depthLimit_withObservers _ p,
        Bool.false_eq_true, ↓reduceIte]
  | both p q | keepFirst p q | keepSecond p q | separated p q | separated1 p q =>
      simp only [withObservers, depthLimit, depthLimit_withObservers kept p,
        depthLimit_withObservers kept q]
  | between before after p =>
      simp only [withObservers, depthLimit, depthLimit_withObservers kept before,
        depthLimit_withObservers kept after, depthLimit_withObservers kept p]
  | firstOf alternatives =>
      simp only [withObservers, depthLimit, depthLimit_withObserversOfAll kept alternatives]
  | chain first steps =>
      simp only [withObservers, depthLimit, depthLimit_withObservers kept first,
        depthLimit_withObserversOfSteps kept steps]

theorem depthLimit_withObserversOfAll (kept : Bool) (grammars : List (Grammar ι κ)) :
    depthLimitOfAll (withObserversOfAll kept grammars) = depthLimitOfAll grammars := by
  cases grammars with
  | nil => rfl
  | cons p rest =>
      simp only [withObserversOfAll, depthLimitOfAll, depthLimit_withObservers kept p,
        depthLimit_withObserversOfAll kept rest]

theorem depthLimit_withObserversOfSteps (kept : Bool) (steps : List (ChainStep (Grammar ι κ))) :
    depthLimitOfSteps (withObserversOfSteps kept steps) = depthLimitOfSteps steps := by
  cases steps with
  | nil => rfl
  | cons step rest =>
      cases step with
      | both q | keepSecond q | keepFirst q =>
          simp only [withObserversOfSteps, depthLimitOfSteps, depthLimit_withObservers kept q,
            depthLimit_withObserversOfSteps kept rest]
      | map | tryMap | copy | look =>
          simp only [withObserversOfSteps, depthLimitOfSteps,
            depthLimit_withObserversOfSteps kept rest]

end

end Grammar

namespace Rules

/-- Rules with or without the observers in them. -/
def withObservers (kept : Bool) (rules : Rules ι κ) : Rules ι κ :=
  rules.map fun (name, grammar) => (name, grammar.withObservers kept)

/-- Rules in which each observer is replaced by what it observes. -/
def withoutObservers (rules : Rules ι κ) : Rules ι κ := rules.withObservers false

@[simp] theorem withObservers_true (rules : Rules ι κ) : rules.withObservers true = rules := by
  simp [withObservers]

@[simp] theorem length_withObservers (kept : Bool) (rules : Rules ι κ) :
    (rules.withObservers kept).length = rules.length :=
  List.length_map _

theorem lookup_withObservers (kept : Bool) (rules : Rules ι κ) (name : String) :
    (rules.withObservers kept).lookup name =
      (rules.lookup name).map (Grammar.withObservers kept) := by
  induction rules with
  | nil => rfl
  | cons rule rest ih =>
      obtain ⟨ruleName, grammar⟩ := rule
      rw [withObservers] at ih ⊢
      simp only [List.map_cons, List.lookup_cons]
      cases name == ruleName with
      | true => rfl
      | false => exact ih

theorem depthLimit_withObservers (kept : Bool) (rules : Rules ι κ) :
    (rules.withObservers kept).depthLimit = rules.depthLimit := by
  have grammars : (rules.withObservers kept).map Prod.snd =
      Grammar.withObserversOfAll kept (rules.map Prod.snd) := by
    induction rules with
    | nil => rfl
    | cons rule rest ih =>
        rw [withObservers] at ih ⊢
        simp only [List.map_cons, Grammar.withObserversOfAll, ih]
  rw [depthLimit, grammars, Grammar.depthLimit_withObserversOfAll, depthLimit]

end Rules

@[simp] theorem Grammar.levels_withObservers (kept : Bool) (rules : Rules ι κ)
    (grammar : Grammar ι κ) :
    Grammar.levels (rules.withObservers kept) (grammar.withObservers kept) =
      Grammar.levels rules grammar := by
  rw [levels, levels, depthLimit_withObservers, Rules.depthLimit_withObservers]

end Descent
