import Descent.Grammar.Build

/-!
# Rules

A rule that is referred to in place is built as part of the grammar that refers to
it.  References in place that lead back to their own rule have no parser; without
such a circle no chain of references is longer than there are rules, so looking
that far finds every rule.

A deferred rule is built when it runs.  No parser opens more deferred rules than
the largest limit in sight, so unfolding deferred rules that many times covers all
runs.
-/

namespace Descent

variable {σ ι κ ω : Type} [Cursor σ ι ω] [Item ι] [Leaves κ σ ω]

/-- What stands in for a rule that cannot be built. -/
def Parser.unresolved (name : String) : Parser σ ω Value :=
  .refuse name "rule cannot be resolved"

namespace Rules

/-- The parser of a rule, given the parsers of deferred rules, following references
in place up to the given number of rules. -/
def inPlace (rules : Rules ι κ) (deferred : String → Logged (Parser σ ω Value)) :
    Nat → String → Logged (Parser σ ω Value)
  | 0, name => return Parser.unresolved name
  | budget + 1, name =>
      match rules.lookup name with
      | none => return Parser.unresolved name
      | some grammar => grammar.build ⟨inPlace rules deferred budget, deferred⟩ none

/-- The parser of a deferred rule, in which deferred rules can be opened up to the
given number of levels. -/
def deferred (rules : Rules ι κ) : Nat → String → Logged (Parser σ ω Value)
  | 0, name => return Parser.unresolved name
  | levels + 1, name => inPlace rules (deferred rules levels) rules.length name

/-- What the names of rules stand for, with the given number of levels. -/
def scope (rules : Rules ι κ) (levels : Nat) : Scope σ ω :=
  ⟨inPlace rules (deferred rules levels) rules.length, deferred rules levels⟩

end Rules

namespace Grammar

/-- The largest limit in a grammar and its rules. -/
def levels (rules : Rules ι κ) (grammar : Grammar ι κ) : Nat :=
  max grammar.depthLimit rules.depthLimit

/-- The parser that a grammar with rules stands for. -/
def parser (rules : Rules ι κ) (grammar : Grammar ι κ) : Logged (Parser σ ω Value) :=
  grammar.build (rules.scope (levels rules grammar)) none

end Grammar

end Descent
