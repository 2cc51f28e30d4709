import Mathlib.Logic.Relation
import Descent.Proofs.OpenCount

/-!
# Unfolding rules

Rules are unfolded a number of times, in place and level by level.  Once the levels
cover the limits in sight, further ones change nothing.  If no rule leads back to
itself in place, the same goes for references in place, and what stands beyond the
last unfolding can be anything.
-/

namespace Descent

variable {σ ι κ ω : Type}

namespace Rules

variable {rules : Rules ι κ}

/-- A rule refers to another one in place. -/
def Refers (rules : Rules ι κ) (name target : String) : Prop :=
  ∃ grammar, rules.lookup name = some grammar ∧ .rule target ∈ grammar.parts

/-- No rule leads back to itself in place. -/
def Acyclic (rules : Rules ι κ) : Prop :=
  ∀ name, ¬Relation.TransGen rules.Refers name name

theorem Acyclic.of_rank (rank : String → Nat)
    (lower : ∀ name target, rules.Refers name target → rank target < rank name) :
    rules.Acyclic := by
  have descends : ∀ {name target}, Relation.TransGen rules.Refers name target →
      rank target < rank name := by
    intro name target path
    induction path with
    | single reference => exact lower _ _ reference
    | tail _ reference ih => exact (lower _ _ reference).trans ih
  exact fun name circle => Nat.lt_irrefl _ (descends circle)

theorem mem_names_of_lookup {name : String} {grammar : Grammar ι κ}
    (found : rules.lookup name = some grammar) : name ∈ rules.map Prod.fst := by
  induction rules with
  | nil => simp at found
  | cons rule rest ih =>
      rw [List.lookup_cons] at found
      cases same : name == rule.1 with
      | true => simp [eq_of_beq same]
      | false =>
          simp only [same] at found
          exact List.mem_cons_of_mem _ (ih found)

/-- The rules that have been followed in place to come to a name. -/
structure Trail (rules : Rules ι κ) (name : String) (visited : List String) : Prop where
  distinct : visited.Nodup
  defined : visited ⊆ rules.map Prod.fst
  leads : ∀ earlier ∈ visited, Relation.TransGen rules.Refers earlier name

namespace Trail

variable {name : String} {visited : List String} {grammar : Grammar ι κ}

theorem distinct_cons (acyclic : rules.Acyclic) (trail : rules.Trail name visited) :
    (name :: visited).Nodup :=
  List.nodup_cons.mpr ⟨fun member => acyclic name (trail.leads name member), trail.distinct⟩

theorem defined_cons (trail : rules.Trail name visited)
    (found : rules.lookup name = some grammar) : name :: visited ⊆ rules.map Prod.fst :=
  List.cons_subset.mpr ⟨mem_names_of_lookup found, trail.defined⟩

theorem step (acyclic : rules.Acyclic) (trail : rules.Trail name visited)
    (found : rules.lookup name = some grammar) {target : String}
    (member : .rule target ∈ grammar.parts) : rules.Trail target (name :: visited) where
  distinct := trail.distinct_cons acyclic
  defined := trail.defined_cons found
  leads := by
    have reference : rules.Refers name target := ⟨grammar, found, member⟩
    intro earlier member
    rcases List.mem_cons.mp member with rfl | before
    · exact .single reference
    · exact (trail.leads earlier before).tail reference

/-- A trail without a circle that can go on is shorter than the rules. -/
theorem length_lt (acyclic : rules.Acyclic) (trail : rules.Trail name visited)
    (found : rules.lookup name = some grammar) : visited.length < rules.length := by
  have shorter := (trail.distinct_cons acyclic).length_le_of_subset (trail.defined_cons found)
  rw [List.length_map, List.length_cons] at shorter
  omega

end Trail

end Rules

variable [Cursor σ ι ω] [Item ι] [Leaves κ σ ω]

/-- Builds the parser of a grammar in a scope and runs it. -/
def Grammar.parseIn (scope : Scope σ ω) (grammar : Grammar ι κ) (s : σ) :
    Run ω (Outcome σ Value) := do
  let p ← Run.adopt (grammar.build scope none)
  p.parse s

theorem Correspondence.counted_parseIn {grammar : Grammar ι κ} {scope scope' : Scope σ ω}
    (alike : Logged.Alike ((counted σ).Parsers 0) (grammar.build scope none)
      (grammar.build scope' none)) (s : σ) :
    grammar.parseIn scope s = grammar.parseIn scope' s := by
  have runs : (counted σ).Runs 0 (counted σ).Outcomes (grammar.parseIn scope s)
      (grammar.parseIn scope' s) := by
    apply Runs.bind (.adopt alike)
    intro _ _ parsers
    exact parsers.parse ⟨rfl, trivial⟩
  funext context
  exact (counted_eq runs context (Nat.zero_le _)).1

/-- More levels than the limits in sight change nothing. -/
theorem Grammar.parseIn_scope (leaves : (Correspondence.counted σ).Leafwise κ)
    {rules : Rules ι κ} {grammar : Grammar ι κ} {levels : Nat}
    (enough : Grammar.levels rules grammar ≤ levels) (s : σ) :
    grammar.parseIn (rules.scope levels) s = grammar.parse rules s := by
  have fits : (Correspondence.counted σ).Fits (Grammar.levels rules grammar)
      (grammar.parts ++ rules.parts) := Invariant.fits rules grammar
  have alike : Logged.Alike ((Correspondence.counted σ).Parsers 0)
      (grammar.build (rules.scope levels) none)
      (grammar.build (rules.scope (Grammar.levels rules grammar)) none) :=
    Correspondence.scoped_alike leaves fits.right fits.left
      (enough.trans (Nat.le_add_left _ _)) (Nat.le_add_left _ _)
  exact Correspondence.counted_parseIn alike s

namespace Rules

/-- The parser of a rule, following references in place up to a number of rules; what
is beyond them is given. -/
def unfoldInPlace (rules : Rules ι κ) (beyond deferred : String → Logged (Parser σ ω Value)) :
    Nat → String → Logged (Parser σ ω Value)
  | 0, name =>
      match rules.lookup name with
      | none => return Parser.unresolved name
      | some _ => beyond name
  | budget + 1, name =>
      match rules.lookup name with
      | none => return Parser.unresolved name
      | some grammar => grammar.build ⟨unfoldInPlace rules beyond deferred budget, deferred⟩ none

/-- The parser of a deferred rule; what is beyond the levels, and beyond the references
in place, is given. -/
def unfoldDeferred (rules : Rules ι κ) (beyond : String → Logged (Parser σ ω Value))
    (budget : Nat) : Nat → String → Logged (Parser σ ω Value)
  | 0, name => beyond name
  | levels + 1, name =>
      unfoldInPlace rules beyond (unfoldDeferred rules beyond budget levels) budget name

/-- What the names of rules stand for if nothing is known of the rules beyond some
unfoldings. -/
def unfolding (rules : Rules ι κ) (beyond : String → Logged (Parser σ ω Value))
    (budget levels : Nat) : Scope σ ω :=
  ⟨unfoldInPlace rules beyond (unfoldDeferred rules beyond budget levels) budget,
    unfoldDeferred rules beyond budget levels⟩

end Rules

namespace Grammar

variable {inPlace inPlace' deferred : String → Logged (Parser σ ω Value)}

mutual

/-- Building looks up only the rules that a grammar refers to in place. -/
theorem build_congr {grammar : Grammar ι κ}
    (same : ∀ target, .rule target ∈ grammar.parts → inPlace target = inPlace' target)
    (name : Option String) :
    grammar.build ⟨inPlace, deferred⟩ name = grammar.build ⟨inPlace', deferred⟩ name := by
  cases grammar with
  | leaf | exact | nextItem | succeed | ownLabel | here | refuse | deferred =>
      simp only [build]
  | failAfter _ _ _ p | labeled _ p | renamed _ p | relabeled _ p | optional p | attempt p
  | many p | many1 p | map p | tryMap p | watched _ p | traced p =>
      have inner := @build_congr p fun target member => same target (by simp [parts, member])
      simp only [build, inner]
  | both p q | keepFirst p q | keepSecond p q | separated p q | separated1 p q =>
      have first := @build_congr p fun target member => same target (by simp [parts, member])
      have second := @build_congr q fun target member => same target (by simp [parts, member])
      simp only [build, first, second]
  | between before after p =>
      have first := @build_congr before fun target member =>
        same target (by simp [parts, member])
      have second := @build_congr after fun target member =>
        same target (by simp [parts, member])
      have third := @build_congr p fun target member => same target (by simp [parts, member])
      simp only [build, first, second, third]
  | firstOf alternatives =>
      have all := @buildAll_congr alternatives fun target member =>
        same target (by simp [parts, member])
      simp only [build, all]
  | rule target =>
      have found := same target (by simp [parts])
      simp only [build, found]
  | chain first steps finish =>
      have start := @build_congr first fun target member => same target (by simp [parts, member])
      have later := @buildSteps_congr steps fun target member =>
        same target (by simp [parts, member])
      simp only [build, start, later]

theorem buildAll_congr {grammars : List (Grammar ι κ)}
    (same : ∀ target, .rule target ∈ partsOfAll grammars → inPlace target = inPlace' target) :
    buildAll ⟨inPlace, deferred⟩ grammars = buildAll ⟨inPlace', deferred⟩ grammars := by
  cases grammars with
  | nil => simp only [buildAll]
  | cons p rest =>
      have head := @build_congr p fun target member =>
        same target (by simp [partsOfAll, member])
      have tail := @buildAll_congr rest fun target member =>
        same target (by simp [partsOfAll, member])
      simp only [buildAll, head, tail]

theorem buildSteps_congr {steps : List (ChainStep (Grammar ι κ))}
    (same : ∀ target, .rule target ∈ partsOfSteps steps → inPlace target = inPlace' target)
    (p : Parser σ ω Value) :
    buildSteps ⟨inPlace, deferred⟩ p steps = buildSteps ⟨inPlace', deferred⟩ p steps := by
  cases steps with
  | nil => simp only [buildSteps]
  | cons step rest =>
      cases step with
      | both q | keepSecond q | keepFirst q =>
          have next := @build_congr q fun target member =>
            same target (by simp [partsOfSteps, member])
          have later := @buildSteps_congr rest fun target member =>
            same target (by simp [partsOfSteps, member])
          simp only [buildSteps, next, later]
      | map | tryMap | copy | look =>
          have later := @buildSteps_congr rest fun target member =>
            same target (by simpa [partsOfSteps] using member)
          simp only [buildSteps, later]

end

end Grammar

namespace Rules

variable {rules : Rules ι κ} {beyond beyond' deferred : String → Logged (Parser σ ω Value)}

theorem inPlace_eq_unfoldInPlace (budget : Nat) (name : String) :
    rules.inPlace deferred budget name =
      rules.unfoldInPlace (fun name => return Parser.unresolved name) deferred budget name := by
  induction budget generalizing name with
  | zero =>
      simp only [inPlace, unfoldInPlace]
      cases rules.lookup name <;> rfl
  | succ budget ih =>
      unfold inPlace unfoldInPlace
      cases rules.lookup name with
      | none => rfl
      | some grammar =>
          exact congrArg (fun rule => grammar.build ⟨rule, deferred⟩ none) (funext ih)

namespace Trail

variable {name : String} {visited : List String}

theorem unfoldInPlace_eq (acyclic : rules.Acyclic) (trail : rules.Trail name visited)
    {budget budget' : Nat} (enough : rules.length ≤ budget + visited.length)
    (enough' : rules.length ≤ budget' + visited.length) :
    rules.unfoldInPlace beyond deferred budget name =
      rules.unfoldInPlace beyond' deferred budget' name := by
  -- With every rule that is followed the budget shrinks by one and the trail grows by one,
  -- so what is beyond would be reached only by a trail as long as the rules.
  induction budget generalizing name visited budget' with
  | zero =>
      cases found : rules.lookup name with
      | none =>
          cases budget' <;> simp only [unfoldInPlace, found]
      | some grammar =>
          have shorter := trail.length_lt acyclic found
          omega
  | succ budget ih =>
      cases found : rules.lookup name with
      | none =>
          cases budget' <;> simp only [unfoldInPlace, found]
      | some grammar =>
          have shorter := trail.length_lt acyclic found
          cases budget' with
          | zero => omega
          | succ budget' =>
              simp only [unfoldInPlace, found]
              apply Grammar.build_congr
              intro target member
              have onward := trail.step acyclic found member
              apply ih onward
              · rw [List.length_cons]
                omega
              · rw [List.length_cons]
                omega

end Trail

theorem unfoldInPlace_eq (acyclic : rules.Acyclic) {budget : Nat}
    (enough : rules.length ≤ budget) (name : String) :
    rules.unfoldInPlace beyond deferred budget name =
      rules.inPlace deferred rules.length name := by
  have trail : rules.Trail name [] :=
    ⟨.nil, List.nil_subset _, fun _ member => absurd member List.not_mem_nil⟩
  rw [inPlace_eq_unfoldInPlace]
  exact trail.unfoldInPlace_eq acyclic enough (Nat.le_refl _)

end Rules

namespace Correspondence

variable {c : Correspondence σ σ} {floor bound : Nat} {rules : Rules ι κ}
  {beyond : String → Logged (Parser σ ω Value)}

theorem scopes_unfolding (leaves : c.Leafwise κ) (fits : c.Fits bound rules.parts)
    (acyclic : rules.Acyclic) {budget levels levels' : Nat} (unfolded : rules.length ≤ budget)
    (enough : bound ≤ floor + levels) (enough' : bound ≤ floor + levels') :
    c.Scopes floor bound (rules.unfolding beyond budget levels) (rules.scope levels') := by
  have inPlace : ∀ {later : String → Logged (Parser σ ω Value)},
      rules.unfoldInPlace beyond later budget = rules.inPlace later rules.length :=
    funext (Rules.unfoldInPlace_eq acyclic unfolded)
  induction levels generalizing floor levels' with
  | zero =>
      -- Nothing deferred can be opened any more, so what is beyond is not reached.
      have exhausted : ¬ floor < bound := by omega
      refine ⟨?_, (absurd · exhausted)⟩
      simp only [Rules.unfolding, inPlace]
      exact inPlace_alike leaves fits (absurd · exhausted) rules.length
  | succ levels ih =>
      have opened : floor < bound → ∀ name,
          Logged.Alike (c.Parsers (floor + 1))
            (rules.unfoldDeferred beyond budget (levels + 1) name)
            (rules.deferred levels' name) := by
        intro room name
        cases levels' with
        | zero => omega
        | succ levels' =>
            have inner : c.Scopes (floor + 1) bound (rules.unfolding beyond budget levels)
                (rules.scope levels') := ih (by omega) (by omega)
            exact inner.inPlace name
      refine ⟨?_, opened⟩
      simp only [Rules.unfolding, inPlace]
      exact inPlace_alike leaves fits opened rules.length

end Correspondence

/-- If no rule leads back to itself in place, a parse comes to the same whatever is beyond
as many unfoldings as there are rules, and as many levels as the limits in sight. -/
theorem Grammar.parseIn_unfolding (leaves : (Correspondence.counted σ).Leafwise κ)
    {rules : Rules ι κ} (acyclic : rules.Acyclic) {grammar : Grammar ι κ}
    (beyond : String → Logged (Parser σ ω Value)) {budget levels : Nat}
    (unfolded : rules.length ≤ budget) (enough : Grammar.levels rules grammar ≤ levels) (s : σ) :
    grammar.parseIn (rules.unfolding beyond budget levels) s = grammar.parse rules s := by
  have fits : (Correspondence.counted σ).Fits (Grammar.levels rules grammar)
      (grammar.parts ++ rules.parts) := Invariant.fits rules grammar
  have scopes : (Correspondence.counted σ).Scopes 0 (Grammar.levels rules grammar)
      (rules.unfolding beyond budget levels) (rules.scope (Grammar.levels rules grammar)) :=
    Correspondence.scopes_unfolding leaves fits.right acyclic unfolded
      (enough.trans (Nat.le_add_left _ _)) (Nat.le_add_left _ _)
  have alike := Correspondence.build_alike leaves scopes grammar fits.left none
  exact Correspondence.counted_parseIn alike s

end Descent
