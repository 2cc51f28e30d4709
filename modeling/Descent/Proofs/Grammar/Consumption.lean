import Descent.Grammar.Leaves
import Descent.Proofs.Grammar.Variation

/-!
# Grammars that consume

Whether every success of a grammar consumes something can be told from its nodes, given
which items, leaves and rules do.  What is assumed of rules has to be borne out by their
own grammars; these may refer to each other in a circle.
-/

namespace Descent

variable {ι κ : Type}

/-- What is known to consume when a grammar is looked at. -/
structure Consumption (ι κ : Type) where
  items : ι → Bool
  leaves : κ → Bool
  /-- Leaves in which the items of all repetitions consume something. -/
  loops : κ → Bool
  inPlace : String → Bool
  deferred : String → Bool

namespace Grammar

mutual

/-- Whether every success of a grammar consumes something. -/
def consumes (known : Consumption ι κ) : Grammar ι κ → Bool
  | .leaf content => known.leaves content
  | .exact item => known.items item
  | .nextItem _ | .refuse _ _ | .failAfter _ _ _ _ => true
  | .succeed _ _ | .ownLabel _ | .here _ => false
  | .labeled _ p | .renamed _ p | .relabeled _ p | .attempt p => consumes known p
  | .both p q | .keepFirst p q | .keepSecond p q => consumes known p || consumes known q
  | .between before after p => consumes known before || consumes known p || consumes known after
  | .optional _ | .many _ _ | .separated _ _ _ => false
  | .firstOf alternatives => allConsume known alternatives
  | .many1 p _ | .separated1 _ p _ => consumes known p
  | .map p _ | .tryMap p _ | .watched _ p | .traced p => consumes known p
  | .rule name => known.inPlace name
  | .deferred _ name _ => known.deferred name
  | .chain first steps _ => consumes known first || stepsConsume known steps

/-- Whether each of several grammars consumes. -/
def allConsume (known : Consumption ι κ) : List (Grammar ι κ) → Bool
  | [] => true
  | p :: rest => consumes known p && allConsume known rest

/-- Whether a chain consumes by one of its steps. -/
def stepsConsume (known : Consumption ι κ) : List (ChainStep (Grammar ι κ)) → Bool
  | [] => false
  | .both q :: rest | .keepSecond q :: rest | .keepFirst q :: rest =>
      consumes known q || stepsConsume known rest
  | .map _ :: rest | .tryMap _ :: rest | .copy :: rest | .look :: rest => stepsConsume known rest

end

/-- Whether the items of a node consume something, if it is a repetition. -/
def loopConsumes (known : Consumption ι κ) : Grammar ι κ → Bool
  | .leaf content => known.loops content
  | .many p _ | .many1 p _ | .separated _ p _ | .separated1 _ p _ => p.consumes known
  | _ => true

end Grammar

/-- The grammars of rules bear out what is known of them. -/
def Rules.BearOut (rules : Rules ι κ) (known : Consumption ι κ) : Prop :=
  ∀ name grammar, rules.lookup name = some grammar →
    (known.inPlace name || known.deferred name) = true → grammar.consumes known = true

theorem Rules.BearOut.of_nothing {rules : Rules ι κ} {known : Consumption ι κ}
    (inPlace : ∀ name, known.inPlace name = false)
    (deferred : ∀ name, known.deferred name = false) : rules.BearOut known := by
  intro name grammar _ consumes
  rw [inPlace, deferred] at consumes
  cases consumes

/-- Only the progress guards of repetitions may differ. -/
def Variation.guards (κ : Type) : Variation κ where
  sameLabels := True
  leaves := Eq
  repetitions limits other := other.maxRepetitions = limits.maxRepetitions
  deferrals := Eq
  attempts := False

namespace Shape

def consumes : Shape → Bool
  | .number => true
  | .boxed shape => shape.consumes
  | .optional _ | .sequence _ => false

def loopsConsume : Shape → Bool
  | .number => true
  | .optional shape | .boxed shape => shape.loopsConsume
  | .sequence shape => shape.consumes && shape.loopsConsume

end Shape

namespace TextLeaf

def consumes : TextLeaf → Bool
  | .typed shape => shape.consumes
  | _ => true

def loopsConsume : TextLeaf → Bool
  | .typed shape => shape.loopsConsume
  | _ => true

end TextLeaf

namespace Consumption

variable {σ : Type}

/-- What consumes in a text: every text but the empty one. -/
def ofText (inPlace deferred : String → Bool) : Consumption String TextLeaf :=
  ⟨fun item => !item.isEmpty, TextLeaf.consumes, TextLeaf.loopsConsume, inPlace, deferred⟩

/-- What consumes among tokens: every token. -/
def ofTokens (inPlace deferred : String → Bool) : Consumption String TextLeaf :=
  ⟨fun _ => true, TextLeaf.consumes, TextLeaf.loopsConsume, inPlace, deferred⟩

/-- What consumes in an array: every item. -/
def ofItems (inPlace deferred : String → Bool) : Consumption ι Empty :=
  ⟨fun _ => true, nofun, nofun, inPlace, deferred⟩

end Consumption

end Descent
