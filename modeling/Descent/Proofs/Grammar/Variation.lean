import Mathlib.Data.List.Forall2
import Descent.Proofs.Grammar.Parts

/-!
# Grammars of one shape

Two grammars of one shape are built from the same nodes and may differ in what a
variation allows: in labels, in the limits of repetitions and deferred parsers, in
leaves, and in parsers that are renamed or attempted on one side only.
-/

namespace Descent

/-- What may differ between grammars of one shape. -/
structure Variation (κ : Type) where
  /-- Labels have to be equal.  Otherwise they are free, and parsers may be renamed on
  either side. -/
  sameLabels : Prop
  leaves : κ → κ → Prop
  repetitions : Limits → Limits → Prop
  deferrals : Limits → Limits → Prop
  /-- Operands may be attempted on the second side. -/
  attempts : Prop

def Variation.Labels {κ : Type} (v : Variation κ) (label other : String) : Prop :=
  v.sameLabels → label = other

inductive Finish.Varies {κ : Type} (v : Variation κ) : Finish → Finish → Prop where
  | structural : Varies v .structural .structural
  | labeled {label other : String} :
      v.Labels label other → Varies v (.labeled label) (.labeled other)
  | bare : Varies v .bare .bare

theorem Variation.labels_self {κ : Type} {v : Variation κ} (label : String) :
    v.Labels label label :=
  fun _ => rfl

theorem Finish.varies_self {κ : Type} {v : Variation κ} (finish : Finish) :
    finish.Varies v finish := by
  cases finish with
  | structural => exact .structural
  | labeled label => exact .labeled (v.labels_self label)
  | bare => exact .bare

/-- What has to be allowed for a node to vary from itself. -/
def Variation.Covers {ι κ : Type} (v : Variation κ) : Grammar ι κ → Prop
  | .leaf content => v.leaves content content
  | .ownLabel _ => v.sameLabels
  | .many _ limits | .many1 _ limits | .separated _ _ limits | .separated1 _ _ limits =>
      v.repetitions limits limits
  | .deferred _ _ limits => v.deferrals limits limits
  | _ => True

namespace Grammar

variable {ι κ : Type}

mutual

/-- The second grammar is the first one, except for what may vary. -/
inductive Varies (v : Variation κ) : Grammar ι κ → Grammar ι κ → Prop where
  | leaf {content other : κ} : v.leaves content other → Varies v (.leaf content) (.leaf other)
  | exact (item : ι) : Varies v (.exact item) (.exact item)
  | nextItem {label other : String} :
      v.Labels label other → Varies v (.nextItem label) (.nextItem other)
  | succeed {label other : String} (value : Value) :
      v.Labels label other → Varies v (.succeed label value) (.succeed other value)
  /-- Yields its label, which must therefore be the same. -/
  | ownLabel (label : String) : v.sameLabels → Varies v (.ownLabel label) (.ownLabel label)
  | here {label other : String} :
      v.Labels label other → Varies v (.here label) (.here other)
  | refuse {label other : String} (reason : String) :
      v.Labels label other → Varies v (.refuse label reason) (.refuse other reason)
  | failAfter {label other inner inner' : String} {p q : Grammar ι κ} (reason : String) :
      v.Labels label other → v.Labels inner inner' → Varies v p q →
        Varies v (.failAfter label inner reason p) (.failAfter other inner' reason q)
  | labeled {label other : String} {p q : Grammar ι κ} :
      v.Labels label other → Varies v p q → Varies v (.labeled label p) (.labeled other q)
  | renamed {label other : String} {p q : Grammar ι κ} :
      v.Labels label other → Varies v p q → Varies v (.renamed label p) (.renamed other q)
  | renamedFirst {label : String} {p q : Grammar ι κ} :
      ¬v.sameLabels → Varies v p q → Varies v (.renamed label p) q
  | renamedSecond {label : String} {p q : Grammar ι κ} :
      ¬v.sameLabels → Varies v p q → Varies v p (.renamed label q)
  | attempted {p q : Grammar ι κ} : v.attempts → Varies v p q → Varies v p (.attempt q)
  | relabeled {label other : String} {p q : Grammar ι κ} :
      v.Labels label other → Varies v p q → Varies v (.relabeled label p) (.relabeled other q)
  | both {p q p' q' : Grammar ι κ} :
      Varies v p p' → Varies v q q' → Varies v (.both p q) (.both p' q')
  | keepFirst {p q p' q' : Grammar ι κ} :
      Varies v p p' → Varies v q q' → Varies v (.keepFirst p q) (.keepFirst p' q')
  | keepSecond {p q p' q' : Grammar ι κ} :
      Varies v p p' → Varies v q q' → Varies v (.keepSecond p q) (.keepSecond p' q')
  | between {before after p before' after' p' : Grammar ι κ} :
      Varies v before before' → Varies v after after' → Varies v p p' →
        Varies v (.between before after p) (.between before' after' p')
  | optional {p q : Grammar ι κ} : Varies v p q → Varies v (.optional p) (.optional q)
  | attempt {p q : Grammar ι κ} : Varies v p q → Varies v (.attempt p) (.attempt q)
  | firstOf {ps qs : List (Grammar ι κ)} :
      VariesAll v ps qs → Varies v (.firstOf ps) (.firstOf qs)
  | many {p q : Grammar ι κ} {limits other : Limits} :
      v.repetitions limits other → Varies v p q → Varies v (.many p limits) (.many q other)
  | many1 {p q : Grammar ι κ} {limits other : Limits} :
      v.repetitions limits other → Varies v p q → Varies v (.many1 p limits) (.many1 q other)
  | separated {d p e q : Grammar ι κ} {limits other : Limits} :
      v.repetitions limits other → Varies v d e → Varies v p q →
        Varies v (.separated d p limits) (.separated e q other)
  | separated1 {d p e q : Grammar ι κ} {limits other : Limits} :
      v.repetitions limits other → Varies v d e → Varies v p q →
        Varies v (.separated1 d p limits) (.separated1 e q other)
  | map {p q : Grammar ι κ} (transform : Transform) :
      Varies v p q → Varies v (.map p transform) (.map q transform)
  | tryMap {p q : Grammar ι κ} (check : Check) :
      Varies v p q → Varies v (.tryMap p check) (.tryMap q check)
  | watched {p q : Grammar ι κ} (tag : String) :
      Varies v p q → Varies v (.watched tag p) (.watched tag q)
  | traced {p q : Grammar ι κ} : Varies v p q → Varies v (.traced p) (.traced q)
  | rule (name : String) : Varies v (.rule name) (.rule name)
  | deferred {label other : String} {limits limits' : Limits} (name : String) :
      v.Labels label other → v.deferrals limits limits' →
        Varies v (.deferred label name limits) (.deferred other name limits')
  | chain {p q : Grammar ι κ} {steps steps' : List (ChainStep (Grammar ι κ))}
      {finish finish' : Finish} :
      Varies v p q → VariesSteps v steps steps' → finish.Varies v finish' →
        Varies v (.chain p steps finish) (.chain q steps' finish')

inductive VariesAll (v : Variation κ) : List (Grammar ι κ) → List (Grammar ι κ) → Prop where
  | nil : VariesAll v [] []
  | cons {p q : Grammar ι κ} {ps qs : List (Grammar ι κ)} :
      Varies v p q → VariesAll v ps qs → VariesAll v (p :: ps) (q :: qs)

inductive VariesSteps (v : Variation κ) :
    List (ChainStep (Grammar ι κ)) → List (ChainStep (Grammar ι κ)) → Prop where
  | nil : VariesSteps v [] []
  | both {p q : Grammar ι κ} {ps qs : List (ChainStep (Grammar ι κ))} :
      Varies v p q → VariesSteps v ps qs → VariesSteps v (.both p :: ps) (.both q :: qs)
  | keepSecond {p q : Grammar ι κ} {ps qs : List (ChainStep (Grammar ι κ))} :
      Varies v p q → VariesSteps v ps qs →
        VariesSteps v (.keepSecond p :: ps) (.keepSecond q :: qs)
  | keepFirst {p q : Grammar ι κ} {ps qs : List (ChainStep (Grammar ι κ))} :
      Varies v p q → VariesSteps v ps qs →
        VariesSteps v (.keepFirst p :: ps) (.keepFirst q :: qs)
  | map {ps qs : List (ChainStep (Grammar ι κ))} (transform : Transform) :
      VariesSteps v ps qs → VariesSteps v (.map transform :: ps) (.map transform :: qs)
  | tryMap {ps qs : List (ChainStep (Grammar ι κ))} (check : Check) :
      VariesSteps v ps qs → VariesSteps v (.tryMap check :: ps) (.tryMap check :: qs)
  | copy {ps qs : List (ChainStep (Grammar ι κ))} :
      VariesSteps v ps qs → VariesSteps v (.copy :: ps) (.copy :: qs)
  | look {ps qs : List (ChainStep (Grammar ι κ))} :
      VariesSteps v ps qs → VariesSteps v (.look :: ps) (.look :: qs)

end

variable {v : Variation κ}

mutual

theorem varies_self {grammar : Grammar ι κ} (allowed : ∀ part ∈ grammar.parts, v.Covers part) :
    grammar.Varies v grammar := by
  cases grammar with
  | leaf content =>
      rw [parts, List.forall_mem_singleton] at allowed
      exact .leaf allowed
  | exact item => exact .exact item
  | nextItem label => exact .nextItem (v.labels_self label)
  | succeed label value => exact .succeed value (v.labels_self label)
  | ownLabel label =>
      rw [parts, List.forall_mem_singleton] at allowed
      exact .ownLabel label allowed
  | here label => exact .here (v.labels_self label)
  | refuse label reason => exact .refuse reason (v.labels_self label)
  | failAfter label inner reason p =>
      rw [parts, List.forall_mem_cons] at allowed
      exact .failAfter reason (v.labels_self label) (v.labels_self inner) (varies_self allowed.2)
  | labeled label p =>
      rw [parts, List.forall_mem_cons] at allowed
      exact .labeled (v.labels_self label) (varies_self allowed.2)
  | renamed label p =>
      rw [parts, List.forall_mem_cons] at allowed
      exact .renamed (v.labels_self label) (varies_self allowed.2)
  | relabeled label p =>
      rw [parts, List.forall_mem_cons] at allowed
      exact .relabeled (v.labels_self label) (varies_self allowed.2)
  | both p q =>
      rw [parts, List.forall_mem_cons, List.forall_mem_append] at allowed
      exact .both (varies_self allowed.2.1) (varies_self allowed.2.2)
  | keepFirst p q =>
      rw [parts, List.forall_mem_cons, List.forall_mem_append] at allowed
      exact .keepFirst (varies_self allowed.2.1) (varies_self allowed.2.2)
  | keepSecond p q =>
      rw [parts, List.forall_mem_cons, List.forall_mem_append] at allowed
      exact .keepSecond (varies_self allowed.2.1) (varies_self allowed.2.2)
  | between before after p =>
      rw [parts, List.forall_mem_cons, List.forall_mem_append, List.forall_mem_append] at allowed
      exact .between (varies_self allowed.2.1) (varies_self allowed.2.2.1)
        (varies_self allowed.2.2.2)
  | optional p =>
      rw [parts, List.forall_mem_cons] at allowed
      exact .optional (varies_self allowed.2)
  | attempt p =>
      rw [parts, List.forall_mem_cons] at allowed
      exact .attempt (varies_self allowed.2)
  | firstOf alternatives =>
      rw [parts, List.forall_mem_cons] at allowed
      exact .firstOf (variesAll_self allowed.2)
  | many p limits =>
      rw [parts, List.forall_mem_cons] at allowed
      exact .many allowed.1 (varies_self allowed.2)
  | many1 p limits =>
      rw [parts, List.forall_mem_cons] at allowed
      exact .many1 allowed.1 (varies_self allowed.2)
  | separated delimiter p limits =>
      rw [parts, List.forall_mem_cons, List.forall_mem_append] at allowed
      exact .separated allowed.1 (varies_self allowed.2.1) (varies_self allowed.2.2)
  | separated1 delimiter p limits =>
      rw [parts, List.forall_mem_cons, List.forall_mem_append] at allowed
      exact .separated1 allowed.1 (varies_self allowed.2.1) (varies_self allowed.2.2)
  | map p transform =>
      rw [parts, List.forall_mem_cons] at allowed
      exact .map transform (varies_self allowed.2)
  | tryMap p check =>
      rw [parts, List.forall_mem_cons] at allowed
      exact .tryMap check (varies_self allowed.2)
  | watched tag p =>
      rw [parts, List.forall_mem_cons] at allowed
      exact .watched tag (varies_self allowed.2)
  | traced p =>
      rw [parts, List.forall_mem_cons] at allowed
      exact .traced (varies_self allowed.2)
  | rule name => exact .rule name
  | deferred label name limits =>
      rw [parts, List.forall_mem_singleton] at allowed
      exact .deferred name (v.labels_self label) allowed
  | chain first steps finish =>
      rw [parts, List.forall_mem_cons, List.forall_mem_append] at allowed
      exact .chain (varies_self allowed.2.1) (variesSteps_self allowed.2.2)
        finish.varies_self

theorem variesAll_self {grammars : List (Grammar ι κ)}
    (allowed : ∀ part ∈ partsOfAll grammars, v.Covers part) :
    VariesAll v grammars grammars := by
  cases grammars with
  | nil => exact .nil
  | cons p rest =>
      rw [partsOfAll, List.forall_mem_append] at allowed
      exact .cons (varies_self allowed.1) (variesAll_self allowed.2)

theorem variesSteps_self {steps : List (ChainStep (Grammar ι κ))}
    (allowed : ∀ part ∈ partsOfSteps steps, v.Covers part) :
    VariesSteps v steps steps := by
  cases steps with
  | nil => exact .nil
  | cons step rest =>
      cases step with
      | both q =>
          rw [partsOfSteps, List.forall_mem_append] at allowed
          exact .both (varies_self allowed.1) (variesSteps_self allowed.2)
      | keepSecond q =>
          rw [partsOfSteps, List.forall_mem_append] at allowed
          exact .keepSecond (varies_self allowed.1) (variesSteps_self allowed.2)
      | keepFirst q =>
          rw [partsOfSteps, List.forall_mem_append] at allowed
          exact .keepFirst (varies_self allowed.1) (variesSteps_self allowed.2)
      | map transform =>
          rw [partsOfSteps] at allowed
          exact .map transform (variesSteps_self allowed)
      | tryMap check =>
          rw [partsOfSteps] at allowed
          exact .tryMap check (variesSteps_self allowed)
      | copy =>
          rw [partsOfSteps] at allowed
          exact .copy (variesSteps_self allowed)
      | look =>
          rw [partsOfSteps] at allowed
          exact .look (variesSteps_self allowed)

end

end Grammar

namespace Rules

variable {ι κ : Type} {v : Variation κ}

/-- Rules of the same names, in order, whose grammars vary. -/
def Varies (v : Variation κ) (rules others : Rules ι κ) : Prop :=
  List.Forall₂ (fun rule other => rule.1 = other.1 ∧ rule.2.Varies v other.2) rules others

theorem varies_self {rules : Rules ι κ} (allowed : ∀ part ∈ rules.parts, v.Covers part) :
    rules.Varies v rules := by
  induction rules with
  | nil => exact .nil
  | cons rule rest ih =>
      rw [parts, List.map_cons, Grammar.partsOfAll, List.forall_mem_append] at allowed
      exact .cons ⟨rfl, Grammar.varies_self allowed.1⟩ (ih allowed.2)

end Rules

end Descent
