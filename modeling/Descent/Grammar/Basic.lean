import Descent.Check
import Descent.Limits

/-!
# Grammars

A grammar is a parser given as data.  It is indexed by the items that it mentions
and by the leaves that belong to its kind of input.  Grammars refer to each other by
the names of rules, either in place or deferred to the time the parser runs.
-/

namespace Descent

/-- One step of a chain; `γ` stands for grammars. -/
inductive ChainStep (γ : Type) where
  /-- Pairs the value so far with the next one. -/
  | both (next : γ)
  /-- Keeps the next value only. -/
  | keepSecond (next : γ)
  /-- Keeps the value so far only. -/
  | keepFirst (next : γ)
  | map (transform : Transform)
  | tryMap (check : Check)
  /-- Goes on with a copy of the chain. -/
  | copy
  /-- Writes the chain so far to the journal. -/
  | look

/-- How a chain ends. -/
inductive Finish where
  /-- A guarded parser under the label the chain has come to. -/
  | structural
  /-- A guarded parser under a label of its own. -/
  | labeled (label : String)
  /-- The composed parser as it is. -/
  | bare

/-- Grammars over items `ι` with leaves `κ`. -/
inductive Grammar (ι κ : Type) where
  | leaf (leaf : κ)
  | exact (item : ι)
  | nextItem (label : String)
  | succeed (label : String) (value : Value)
  | ownLabel (label : String)
  | here (label : String)
  | refuse (label reason : String)
  | failAfter (label inner reason : String) (p : Grammar ι κ)
  | labeled (label : String) (p : Grammar ι κ)
  /-- The parser that the operand makes, under another label; of several such
  labels the outermost one counts. -/
  | renamed (label : String) (p : Grammar ι κ)
  /-- Reports failures under a further label. -/
  | relabeled (label : String) (p : Grammar ι κ)
  | both (p q : Grammar ι κ)
  | keepFirst (p q : Grammar ι κ)
  | keepSecond (p q : Grammar ι κ)
  | between (before after p : Grammar ι κ)
  | optional (p : Grammar ι κ)
  | attempt (p : Grammar ι κ)
  | firstOf (alternatives : List (Grammar ι κ))
  | many (p : Grammar ι κ) (limits : Limits)
  | many1 (p : Grammar ι κ) (limits : Limits)
  | separated (delimiter p : Grammar ι κ) (limits : Limits)
  | separated1 (delimiter p : Grammar ι κ) (limits : Limits)
  | map (p : Grammar ι κ) (transform : Transform)
  | tryMap (p : Grammar ι κ) (check : Check)
  | watched (tag : String) (p : Grammar ι κ)
  | traced (p : Grammar ι κ)
  /-- A rule built in place. -/
  | rule (name : String)
  /-- A rule built anew each time the parser runs. -/
  | deferred (label name : String) (limits : Limits)
  | chain (first : Grammar ι κ) (steps : List (ChainStep (Grammar ι κ))) (finish : Finish)

/-- Named grammars; of several with one name the first one counts. -/
abbrev Rules (ι κ : Type) := List (String × Grammar ι κ)

namespace Grammar

variable {ι κ : Type}

mutual

/-- The largest number of open deferred parsers that a grammar allows anywhere. -/
def depthLimit : Grammar ι κ → Nat
  | .failAfter _ _ _ p | .labeled _ p | .renamed _ p | .relabeled _ p => depthLimit p
  | .both p q | .keepFirst p q | .keepSecond p q => max (depthLimit p) (depthLimit q)
  | .between before after p =>
      max (depthLimit before) (max (depthLimit after) (depthLimit p))
  | .optional p | .attempt p | .many p _ | .many1 p _ | .map p _ | .tryMap p _ => depthLimit p
  | .separated delimiter p _ | .separated1 delimiter p _ =>
      max (depthLimit delimiter) (depthLimit p)
  | .watched _ p | .traced p => depthLimit p
  | .firstOf alternatives => depthLimitOfAll alternatives
  | .deferred _ _ limits => limits.maxRecursionDepth
  | .chain first steps _ => max (depthLimit first) (depthLimitOfSteps steps)
  | .leaf _ | .exact _ | .nextItem _ | .succeed _ _ | .ownLabel _ | .here _
  | .refuse _ _ | .rule _ => 0

/-- The largest limit in several grammars. -/
def depthLimitOfAll : List (Grammar ι κ) → Nat
  | [] => 0
  | p :: rest => max (depthLimit p) (depthLimitOfAll rest)

/-- The largest limit in the steps of a chain. -/
def depthLimitOfSteps : List (ChainStep (Grammar ι κ)) → Nat
  | [] => 0
  | .both q :: rest | .keepSecond q :: rest | .keepFirst q :: rest =>
      max (depthLimit q) (depthLimitOfSteps rest)
  | .map _ :: rest | .tryMap _ :: rest | .copy :: rest | .look :: rest =>
      depthLimitOfSteps rest

end

end Grammar

/-- The largest limit in several rules. -/
def Rules.depthLimit {ι κ : Type} (rules : Rules ι κ) : Nat :=
  Grammar.depthLimitOfAll (rules.map Prod.snd)

end Descent
