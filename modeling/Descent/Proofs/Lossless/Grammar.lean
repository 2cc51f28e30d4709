import Descent.Grammar.Rules
import Descent.Proofs.Grammar.Parts
import Descent.Proofs.Lossless.Reading

/-!
# Grammars that lose nothing

A grammar whose nodes neither drop nor make up values stands for a parser that loses
nothing, in the scope of rules of the same kind, at any level of unfolding.
-/

namespace Descent

variable {σ ι κ ω : Type}

/-- A step of a chain that adds a value, or adds nothing and leaves the chain as it is. -/
def ChainStep.isLossless {γ : Type} : ChainStep γ → Bool
  | .both _ | .copy | .look => true
  | .keepSecond _ | .keepFirst _ | .map _ | .tryMap _ => false

/-- A node that neither drops values nor makes up values, given the same of leaves. -/
def Grammar.isLossless (leaves : κ → Bool) : Grammar ι κ → Bool
  | .leaf content => leaves content
  | .exact _ | .nextItem _ | .refuse _ _ | .labeled _ _ | .renamed _ _ | .relabeled _ _
  | .both _ _ | .optional _ | .attempt _ | .firstOf _ | .many _ _ | .many1 _ _ | .watched _ _
  | .traced _ | .rule _ | .deferred _ _ _ => true
  | .chain _ steps _ => steps.all ChainStep.isLossless
  | .succeed _ _ | .ownLabel _ | .here _ | .failAfter _ _ _ _ | .keepFirst _ _
  | .keepSecond _ _ | .between _ _ _ | .separated _ _ _ | .separated1 _ _ _ | .map _ _
  | .tryMap _ _ => false

namespace Reading

variable [Cursor σ ι ω] [Item ι] {reading : Reading σ}

theorem Lossless.finish {p : Parser σ ω Value} (lossless : reading.Lossless Value.atoms p)
    (finish : Finish) : reading.Lossless Value.atoms (finish.apply p) := by
  cases finish with
  | structural => exact lossless.labeled p.label
  | labeled label => exact lossless.labeled label
  | bare => exact lossless

theorem Lossless.pair {p q : Parser σ ω Value} (first : reading.Lossless Value.atoms p)
    (second : reading.Lossless Value.atoms q) (name : Option String) :
    reading.Lossless Value.atoms
      (((p.both q).called name).map fun (first, second) => .pair first second) :=
  ((first.both second).called name).map fun (first, second) => first.atoms_pair second

theorem Lossless.chain_pair {p q : Parser σ ω Value} (first : reading.Lossless Value.atoms p)
    (second : reading.Lossless Value.atoms q) :
    reading.Lossless Value.atoms
      ((p.both q).map fun (first, second) => .pair first second) :=
  first.pair second none

variable [Leaves κ σ ω]

def Leafwise (reading : Reading σ) (leaves : κ → Bool) : Prop :=
  ∀ content, leaves content = true →
    ∀ name, reading.Lossless Value.atoms (Leaves.build name content)

structure Scopes (reading : Reading σ) (scope : Scope σ ω) : Prop where
  inPlace : ∀ name, reading.Lossless Value.atoms (scope.inPlace name).value
  deferred : ∀ name, reading.Lossless Value.atoms (scope.deferred name).value

variable {leaves : κ → Bool} {scope : Scope σ ω}

mutual

theorem build_lossless (leafwise : reading.Leafwise leaves) (scopes : reading.Scopes scope)
    {grammar : Grammar ι κ} (kept : ∀ part ∈ grammar.parts, part.isLossless leaves = true)
    (name : Option String) :
    reading.Lossless Value.atoms (grammar.build scope name).value := by
  cases grammar with
  | leaf content =>
      rw [Grammar.parts, List.forall_mem_singleton] at kept
      simp only [Grammar.build]
      exact leafwise content kept name
  | exact item =>
      simp only [Grammar.build]
      exact ((Lossless.exact item).called name).map fun _ => rfl
  | nextItem label =>
      simp only [Grammar.build]
      exact (Lossless.nextItem label).called name
  | refuse label reason =>
      simp only [Grammar.build]
      exact (Lossless.refuse label reason).called name
  | labeled label p =>
      rw [Grammar.parts, List.forall_mem_cons] at kept
      have inner := build_lossless leafwise scopes kept.2 none
      simp only [Grammar.build]
      exact (inner.labeled label).called name
  | renamed label p =>
      rw [Grammar.parts, List.forall_mem_cons] at kept
      have inner := build_lossless leafwise scopes kept.2
      simp only [Grammar.build]
      exact inner (name.or (some label))
  | relabeled label p =>
      rw [Grammar.parts, List.forall_mem_cons] at kept
      have inner := build_lossless leafwise scopes kept.2 none
      simp only [Grammar.build]
      exact (inner.relabeled label).called name
  | both p q =>
      rw [Grammar.parts, List.forall_mem_cons, List.forall_mem_append] at kept
      have first := build_lossless leafwise scopes kept.2.1 none
      have second := build_lossless leafwise scopes kept.2.2 none
      simp only [Grammar.build]
      exact first.pair second name
  | optional p =>
      rw [Grammar.parts, List.forall_mem_cons] at kept
      have inner := build_lossless leafwise scopes kept.2 none
      simp only [Grammar.build]
      exact (inner.optional.called name).map Value.atoms_ofOption
  | attempt p =>
      rw [Grammar.parts, List.forall_mem_cons] at kept
      have inner := build_lossless leafwise scopes kept.2 none
      simp only [Grammar.build]
      exact inner.attempt.called name
  | firstOf alternatives =>
      rw [Grammar.parts, List.forall_mem_cons] at kept
      have all := buildAll_lossless leafwise scopes kept.2
      simp only [Grammar.build]
      exact (Lossless.firstOf all).called name
  | many p limits =>
      rw [Grammar.parts, List.forall_mem_cons] at kept
      have inner := build_lossless leafwise scopes kept.2 none
      simp only [Grammar.build]
      exact ((inner.many limits).called name).map Value.atoms_list
  | many1 p limits =>
      rw [Grammar.parts, List.forall_mem_cons] at kept
      have inner := build_lossless leafwise scopes kept.2 none
      simp only [Grammar.build]
      exact ((inner.many1 limits).called name).map Value.atoms_list
  | watched tag p =>
      rw [Grammar.parts, List.forall_mem_cons] at kept
      have inner := build_lossless leafwise scopes kept.2 none
      simp only [Grammar.build]
      exact (inner.observed _ _).called name
  | traced p =>
      rw [Grammar.parts, List.forall_mem_cons] at kept
      have inner := build_lossless leafwise scopes kept.2 none
      simp only [Grammar.build]
      exact (inner.observed _ _).called name
  | rule target =>
      simp only [Grammar.build]
      exact (scopes.inPlace target).called name
  | deferred label target limits =>
      simp only [Grammar.build]
      exact (Lossless.deferred label limits.maxRecursionDepth (scopes.deferred target)).called name
  | chain first steps finish =>
      rw [Grammar.parts, List.forall_mem_cons, List.forall_mem_append] at kept
      have start := build_lossless leafwise scopes kept.2.1 none
      have composed := buildSteps_lossless leafwise scopes kept.1 kept.2.2 start
      simp only [Grammar.build]
      exact (composed.finish finish).called name
  | succeed | ownLabel | here | failAfter | keepFirst | keepSecond | between | separated
  | separated1 | map | tryMap => simp [Grammar.parts, Grammar.isLossless] at kept

theorem buildAll_lossless (leafwise : reading.Leafwise leaves) (scopes : reading.Scopes scope)
    {grammars : List (Grammar ι κ)}
    (kept : ∀ part ∈ Grammar.partsOfAll grammars, part.isLossless leaves = true) :
    ∀ p ∈ (Grammar.buildAll scope grammars).value, reading.Lossless Value.atoms p := by
  cases grammars with
  | nil => simp [Grammar.buildAll]
  | cons p rest =>
      rw [Grammar.partsOfAll, List.forall_mem_append] at kept
      have first := build_lossless leafwise scopes kept.1 none
      have others := buildAll_lossless leafwise scopes kept.2
      simp only [Grammar.buildAll, Logged.value_bind, Logged.value_pure, List.forall_mem_cons]
      exact ⟨first, others⟩

theorem buildSteps_lossless (leafwise : reading.Leafwise leaves)
    (scopes : reading.Scopes scope) {steps : List (ChainStep (Grammar ι κ))}
    (own : steps.all ChainStep.isLossless = true)
    (kept : ∀ part ∈ Grammar.partsOfSteps steps, part.isLossless leaves = true)
    {p : Parser σ ω Value} (before : reading.Lossless Value.atoms p) :
    reading.Lossless Value.atoms (Grammar.buildSteps scope p steps).value := by
  cases steps with
  | nil =>
      simp only [Grammar.buildSteps]
      exact before
  | cons step rest =>
      rw [List.all_cons, Bool.and_eq_true] at own
      cases step with
      | both next =>
          rw [Grammar.partsOfSteps, List.forall_mem_append] at kept
          have inner := build_lossless leafwise scopes kept.1 none
          simp only [Grammar.buildSteps]
          exact buildSteps_lossless leafwise scopes own.2 kept.2 (before.chain_pair inner)
      | copy | look =>
          rw [Grammar.partsOfSteps] at kept
          simp only [Grammar.buildSteps]
          exact buildSteps_lossless leafwise scopes own.2 kept before
      | keepSecond | keepFirst | map | tryMap => simp [ChainStep.isLossless] at own

end

variable {rules : Rules ι κ}

theorem inPlace_lossless (leafwise : reading.Leafwise leaves)
    (kept : ∀ part ∈ rules.parts, part.isLossless leaves = true)
    {deferred : String → Logged (Parser σ ω Value)}
    (later : ∀ name, reading.Lossless Value.atoms (deferred name).value) (budget : Nat)
    (name : String) : reading.Lossless Value.atoms (rules.inPlace deferred budget name).value := by
  induction budget generalizing name with
  | zero => exact .refuse name _
  | succ budget ih =>
      simp only [Rules.inPlace]
      cases found : rules.lookup name with
      | none => exact .refuse name _
      | some grammar =>
          have keptHere : ∀ part ∈ grammar.parts, part.isLossless leaves = true :=
            fun part member => kept part (Rules.mem_parts_of_lookup found member)
          exact build_lossless leafwise ⟨ih, later⟩ keptHere none

theorem scope_lossless (leafwise : reading.Leafwise leaves)
    (kept : ∀ part ∈ rules.parts, part.isLossless leaves = true) (levels : Nat) :
    reading.Scopes (rules.scope levels : Scope σ ω) := by
  have deferred : ∀ name, reading.Lossless Value.atoms
      (rules.deferred levels name : Logged (Parser σ ω Value)).value := by
    induction levels with
    | zero => exact fun name => .refuse name _
    | succ levels ih => exact inPlace_lossless leafwise kept ih rules.length
  exact ⟨inPlace_lossless leafwise kept deferred rules.length, deferred⟩

end Reading

end Descent
