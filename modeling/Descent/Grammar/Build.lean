import Descent.Grammar.Basic
import Descent.Parser.Deferred
import Descent.Parser.Repetition
import Descent.Parser.Transform

/-!
# From grammars to parsers

Building follows the structure of a grammar.  A new name belongs to the parser that
the grammar's own constructor makes, before its value is turned into a `Value`;
turning values keeps both label and failures, whatever the name.
-/

namespace Descent

variable {σ ι κ ω : Type}

/-- The parsers that names of rules stand for, in place and deferred. -/
structure Scope (σ ω : Type) where
  inPlace : String → Logged (Parser σ ω Value)
  deferred : String → Logged (Parser σ ω Value)

/-- The parsers that the leaves `κ` of a grammar stand for, under a new name if one
is given. -/
class Leaves (κ σ : Type) (ω : outParam Type) where
  build : Option String → κ → Parser σ ω Value

instance [Cursor σ ι ω] : Leaves Empty σ ω where
  build _ leaf := nomatch leaf

/-- The diagnostic text of a chain that has come to a parser. -/
def describeChain (p : Parser σ ω Value) : String :=
  Text.recordOf "Builder" [Text.field "label" (Text.quoted p.label)]

variable [Cursor σ ι ω]

/-- The parser that a finished chain stands for. -/
def Finish.apply (p : Parser σ ω Value) : Finish → Parser σ ω Value
  | .structural => Parser.labeled p.label p
  | .labeled label => Parser.labeled label p
  | .bare => p

namespace Grammar

variable [Item ι] [Leaves κ σ ω]

mutual

/-- The parser that a grammar stands for, under a new name if one is given. -/
def build (scope : Scope σ ω) (name : Option String) :
    Grammar ι κ → Logged (Parser σ ω Value)
  | .leaf content => return Leaves.build name content
  | .exact item => return ((Parser.exact item).called name).map Item.toValue
  | .nextItem label => return (Parser.nextItem label Item.toValue).called name
  | .succeed label value => return (Parser.succeed label value).called name
  | .ownLabel label => return (Parser.ownLabel label .text).called name
  | .here label => return (Parser.here label fun n => .int n).called name
  | .refuse label reason => return (Parser.refuse label reason).called name
  | .failAfter label inner reason p => do
      let p ← build scope none p
      return (Parser.failAfter label inner reason p).called name
  | .labeled label p => do
      let p ← build scope none p
      return (Parser.labeled label p).called name
  | .renamed label p => build scope (name.or (some label)) p
  | .relabeled label p => do
      let p ← build scope none p
      return (p.relabeled label).called name
  | .both p q => do
      let p ← build scope none p
      let q ← build scope none q
      return ((p.both q).called name).map fun (first, second) => .pair first second
  | .keepFirst p q => do
      let p ← build scope none p
      let q ← build scope none q
      return (p.keepFirst q).called name
  | .keepSecond p q => do
      let p ← build scope none p
      let q ← build scope none q
      return (p.keepSecond q).called name
  | .between before after p => do
      let before ← build scope none before
      let after ← build scope none after
      let p ← build scope none p
      return (Parser.between before after p).called name
  | .optional p => do
      let p ← build scope none p
      return (p.optional.called name).map .ofOption
  | .attempt p => do
      let p ← build scope none p
      return p.attempt.called name
  | .firstOf alternatives => do
      let alternatives ← buildAll scope alternatives
      return (Parser.firstOf alternatives).called name
  | .many p limits => do
      let p ← build scope none p
      return ((p.many limits).called name).map .list
  | .many1 p limits => do
      let p ← build scope none p
      return ((p.many1 limits).called name).map .list
  | .separated delimiter p limits => do
      let delimiter ← build scope none delimiter
      let p ← build scope none p
      return ((Parser.separated delimiter p limits).called name).map .list
  | .separated1 delimiter p limits => do
      let delimiter ← build scope none delimiter
      let p ← build scope none p
      return ((Parser.separated1 delimiter p limits).called name).map .list
  | .map p transform => do
      let p ← build scope none p
      return (p.map transform.apply).called name
  | .tryMap p check => do
      let p ← build scope none p
      return (p.tryMap check.run Refusal.message).called name
  | .watched tag p => do
      let p ← build scope none p
      return (p.watched tag).called name
  | .traced p => do
      let p ← build scope none p
      return p.traced.called name
  | .rule target => do
      let p ← scope.inPlace target
      return p.called name
  | .deferred label target limits =>
      return (Parser.deferred label limits.maxRecursionDepth fun _ =>
        scope.deferred target).called name
  | .chain first steps finish => do
      let p ← build scope none first
      let p ← buildSteps scope p steps
      return (finish.apply p).called name

/-- The parsers of several grammars, built in order. -/
def buildAll (scope : Scope σ ω) : List (Grammar ι κ) → Logged (List (Parser σ ω Value))
  | [] => return []
  | p :: rest => do
      let p ← build scope none p
      let rest ← buildAll scope rest
      return p :: rest

/-- The parser that a chain comes to after further steps. -/
def buildSteps (scope : Scope σ ω) (p : Parser σ ω Value) :
    List (ChainStep (Grammar ι κ)) → Logged (Parser σ ω Value)
  | [] => return p
  | .both q :: rest => do
      let q ← build scope none q
      buildSteps scope ((p.both q).map fun (first, second) => .pair first second) rest
  | .keepSecond q :: rest => do
      let q ← build scope none q
      buildSteps scope (p.keepSecond q) rest
  | .keepFirst q :: rest => do
      let q ← build scope none q
      buildSteps scope (p.keepFirst q) rest
  | .map transform :: rest => buildSteps scope (p.map transform.apply) rest
  | .tryMap check :: rest => buildSteps scope (p.tryMap check.run Refusal.message) rest
  | .copy :: rest => buildSteps scope p rest
  | .look :: rest => do
      Logged.write (.composed (describeChain p))
      buildSteps scope p rest

end

end Grammar

end Descent
