import Descent.Proofs.Comparison.Rules
import Descent.Proofs.Conduct.Grammar

/-!
# Parses keep a conduct

Rules stand for parsers that do what is known of them, whether they are unfolded in place or
level by level.  A rule that is not unfolded any further never succeeds, so whatever is known
of it is true.
-/

namespace Descent.Conduct

variable {σ ι κ ω : Type} {c : Conduct σ} {known : Consumption ι κ} {rules : Rules ι κ}

theorem Demands.lookup (demands : c.Demands known rules.parts) {name : String}
    {grammar : Grammar ι κ} (found : rules.lookup name = some grammar) :
    c.Demands known grammar.parts :=
  fun part member => demands part (Rules.mem_parts_of_lookup found member)

variable [Cursor σ ι ω] [Leaves κ σ ω]

/-- Rules stand for one parser in place and deferred, which does what is known of either. -/
theorem Grounds.of_either {first later : String → Logged (Parser σ ω Value)}
    (items : Cursor.Consumes σ known.items) (leaves : c.Leafwise known)
    (inPlace : ∀ name, c.Built (c.Parsers (known.inPlace name || known.deferred name)) (first name))
    (deferred : ∀ name, c.Built (c.Parsers (known.deferred name)) (later name)) :
    c.Grounds known ⟨first, later⟩ := by
  refine ⟨items, leaves, fun name => (inPlace name).imp fun _ keeps => ?_, deferred⟩
  exact keeps.weaken fun consumes => by rw [consumes, Bool.true_or]

variable [Item ι] (consuming : Cursor.Consumes σ known.items) (leaves : c.Leafwise known)
  (borne : rules.BearOut known)

include consuming leaves borne

theorem inPlace_keeps (demands : c.Demands known rules.parts)
    {later : String → Logged (Parser σ ω Value)}
    (deferred : ∀ name, c.Built (c.Parsers (known.deferred name)) (later name)) (budget : Nat)
    (name : String) :
    c.Built (c.Parsers (known.inPlace name || known.deferred name))
      (rules.inPlace later budget name) := by
  have unresolved : ∀ {moves : Bool} name,
      c.Built (c.Parsers moves) (pure (Parser.unresolved name : Parser σ ω Value)) :=
    fun name => .pure (.refuse name _)
  induction budget generalizing name with
  | zero => exact unresolved name
  | succ budget ih =>
      simp only [Rules.inPlace]
      cases found : rules.lookup name with
      | none => exact unresolved name
      | some grammar =>
          have grounds : c.Grounds known ⟨rules.inPlace later budget, later⟩ :=
            .of_either consuming leaves ih deferred
          have built := grounds.build_keeps grammar (demands.lookup found) none
          exact built.imp fun _ keeps => keeps.weaken (borne name grammar found)

theorem deferred_keeps (demands : c.Demands known rules.parts) (levels : Nat) (name : String) :
    c.Built (c.Parsers (known.deferred name))
      (rules.deferred levels name : Logged (Parser σ ω Value)) := by
  induction levels generalizing name with
  | zero => exact .pure (.refuse name _)
  | succ levels ih =>
      have built := inPlace_keeps consuming leaves borne demands ih rules.length name
      exact built.imp fun _ keeps => keeps.weaken fun consumes => by rw [consumes, Bool.or_true]

theorem scope_keeps (demands : c.Demands known rules.parts) (levels : Nat) :
    c.Grounds known (rules.scope levels : Scope σ ω) :=
  have deferred := deferred_keeps consuming leaves borne demands levels
  .of_either consuming leaves
    (inPlace_keeps consuming leaves borne demands deferred rules.length) deferred

theorem parse_keeps {grammar : Grammar ι κ}
    (demands : c.Demands known (grammar.parts ++ rules.parts)) (s : σ) :
    c.Runs (c.Rests (grammar.consumes known) s) (grammar.parse rules s) := by
  obtain ⟨own, ofRules⟩ := demands_append.mp demands
  have grounds := scope_keeps (ω := ω) consuming leaves borne ofRules
    (Grammar.levels rules grammar)
  have built := grounds.build_keeps grammar own none
  exact (Runs.adopt built).bind fun _ keeps => keeps.parse s

end Descent.Conduct
