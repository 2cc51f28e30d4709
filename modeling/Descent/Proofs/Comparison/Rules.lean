import Descent.Proofs.Comparison.Grammar
import Descent.Proofs.Unfolding

/-!
# Parses keep comparisons

Rules of one shape stand for parsers whose runs agree, level by level, and so do whole
parses.  The second side may have more levels than the first one.
-/

namespace Descent

variable {σ ι κ ω : Type}

theorem Rules.Varies.lookup {v : Variation κ} {rules others : Rules ι κ}
    (varies : rules.Varies v others) (name : String) :
    Option.Rel (Grammar.Varies v) (rules.lookup name) (others.lookup name) := by
  induction varies with
  | nil => exact .none
  | @cons rule other _ _ same _ ih =>
      obtain ⟨names, head⟩ := same
      rw [List.lookup_cons, List.lookup_cons, ← names]
      cases name == rule.1 with
      | true => exact .some head
      | false => exact ih

theorem Rules.Varies.length_eq {v : Variation κ} {rules others : Rules ι κ}
    (varies : rules.Varies v others) : rules.length = others.length :=
  List.Forall₂.length_eq varies

theorem Grammar.mem_parts_self (grammar : Grammar ι κ) : grammar ∈ grammar.parts := by
  cases grammar <;> simp [Grammar.parts]

theorem Rules.depthLimit_le_of_lookup {rules : Rules ι κ} {name : String}
    {grammar : Grammar ι κ} (found : rules.lookup name = some grammar) :
    grammar.depthLimit ≤ rules.depthLimit :=
  Rules.depthLimit_le_of_mem (Rules.mem_parts_of_lookup found grammar.mem_parts_self)

namespace Comparison

variable [Cursor σ ι ω] [Item ι] [Leaves κ σ ω] {c : Comparison σ κ} {floor bound : Nat}
  {rules others : Rules ι κ}

theorem inPlace_agree (leaves : c.Leafwise) (varies : rules.Varies c.toVariation others)
    (within : rules.depthLimit ≤ bound) {later later' : String → Logged (Parser σ ω Value)}
    (deferred : floor < bound → ∀ name,
      c.Built (c.Parsers (floor + 1)) (later name) (later' name))
    (budget : Nat) (name : String) :
    c.Built (c.Parsers floor) (rules.inPlace later budget name)
      (others.inPlace later' budget name) := by
  have unresolved : ∀ name, c.Built (c.Parsers floor) (pure (Parser.unresolved name))
      (pure (Parser.unresolved name)) := fun _ => .pure (.refuse _ fun _ => rfl)
  induction budget generalizing name with
  | zero => exact unresolved name
  | succ budget ih =>
      have both := varies.lookup name
      simp only [Rules.inPlace]
      generalize found : rules.lookup name = first at both
      generalize others.lookup name = second at both
      cases both with
      | none => exact unresolved name
      | some same =>
          have limit := (Rules.depthLimit_le_of_lookup found).trans within
          exact build_agree leaves ⟨ih, deferred⟩
            same limit fun _ => rfl

/-- As for correspondences, an exhausted level is out of reach; it is enough that the
levels on both sides cover what the first side can open. -/
theorem scopes_agree (leaves : c.Leafwise) (varies : rules.Varies c.toVariation others)
    (within : rules.depthLimit ≤ bound) {levels levels' : Nat} (enough : bound ≤ floor + levels)
    (enough' : bound ≤ floor + levels') :
    c.Scopes floor bound (rules.scope levels) (others.scope levels') := by
  have lengths := varies.length_eq
  induction levels generalizing floor levels' with
  | zero =>
      have exhausted : ¬ floor < bound := by omega
      refine ⟨?_, (absurd · exhausted)⟩
      simp only [Rules.scope, lengths]
      exact inPlace_agree leaves varies within (absurd · exhausted) others.length
  | succ levels ih =>
      have opened : floor < bound → ∀ name,
          c.Built (c.Parsers (floor + 1)) (rules.deferred (levels + 1) name)
            (others.deferred levels' name) := by
        intro room name
        cases levels' with
        | zero => omega
        | succ levels' =>
            have inner : c.Scopes (floor + 1) bound (rules.scope levels)
                (others.scope levels') := ih (by omega) (by omega)
            exact inner.inPlace name
      refine ⟨?_, opened⟩
      simp only [Rules.scope, lengths]
      exact inPlace_agree leaves varies within opened others.length

theorem parse_agree (counted : (Correspondence.counted σ).Leafwise κ) (leaves : c.Leafwise)
    (variesRules : rules.Varies c.toVariation others) {grammar other : Grammar ι κ}
    (varies : grammar.Varies c.toVariation other) (s : σ) :
    c.Runs 0 (c.Agree s) (grammar.parse rules s) (other.parse others s) := by
  rw [← Grammar.parseIn_scope counted
    (le_max_right (Grammar.levels rules grammar) (Grammar.levels others other))]
  have scopes : c.Scopes 0 (Grammar.levels rules grammar)
      (rules.scope (Grammar.levels rules grammar))
      (others.scope (max (Grammar.levels rules grammar) (Grammar.levels others other))) :=
    scopes_agree leaves variesRules (le_max_right _ _) (Nat.le_add_left _ _)
      ((le_max_left _ _).trans (Nat.le_add_left _ _))
  have unnamed : c.sameLabels → (none : Option String) = none := fun _ => rfl
  have built := build_agree leaves scopes varies (le_max_left _ _) unnamed
  apply Runs.bind (.adopt built)
  intro _ _ parsers
  exact parsers.parse s

end Comparison

end Descent
