import Mathlib.Order.MinMax
import Descent.Grammar.Rules

/-!
# Parts of grammars

The grammars that a grammar is composed of, in place and not through rules.  What a
claim demands of every node of a grammar is a condition on its parts, and the limit
of any deferred part is within the limit of the whole.
-/

namespace Descent

variable {ι κ : Type}

namespace Grammar

mutual

/-- A grammar and everything it is composed of. -/
def parts : Grammar ι κ → List (Grammar ι κ)
  | .leaf content => [.leaf content]
  | .exact item => [.exact item]
  | .nextItem label => [.nextItem label]
  | .succeed label value => [.succeed label value]
  | .ownLabel label => [.ownLabel label]
  | .here label => [.here label]
  | .refuse label reason => [.refuse label reason]
  | .failAfter label inner reason p => .failAfter label inner reason p :: parts p
  | .labeled label p => .labeled label p :: parts p
  | .renamed label p => .renamed label p :: parts p
  | .relabeled label p => .relabeled label p :: parts p
  | .both p q => .both p q :: (parts p ++ parts q)
  | .keepFirst p q => .keepFirst p q :: (parts p ++ parts q)
  | .keepSecond p q => .keepSecond p q :: (parts p ++ parts q)
  | .between before after p =>
      .between before after p :: (parts before ++ (parts after ++ parts p))
  | .optional p => .optional p :: parts p
  | .attempt p => .attempt p :: parts p
  | .firstOf alternatives => .firstOf alternatives :: partsOfAll alternatives
  | .many p limits => .many p limits :: parts p
  | .many1 p limits => .many1 p limits :: parts p
  | .separated delimiter p limits =>
      .separated delimiter p limits :: (parts delimiter ++ parts p)
  | .separated1 delimiter p limits =>
      .separated1 delimiter p limits :: (parts delimiter ++ parts p)
  | .map p transform => .map p transform :: parts p
  | .tryMap p check => .tryMap p check :: parts p
  | .watched tag p => .watched tag p :: parts p
  | .traced p => .traced p :: parts p
  | .rule name => [.rule name]
  | .deferred label name limits => [.deferred label name limits]
  | .chain first steps finish =>
      .chain first steps finish :: (parts first ++ partsOfSteps steps)

/-- The parts of several grammars. -/
def partsOfAll : List (Grammar ι κ) → List (Grammar ι κ)
  | [] => []
  | p :: rest => parts p ++ partsOfAll rest

/-- The parts of the steps of a chain. -/
def partsOfSteps : List (ChainStep (Grammar ι κ)) → List (Grammar ι κ)
  | [] => []
  | .both q :: rest | .keepSecond q :: rest | .keepFirst q :: rest =>
      parts q ++ partsOfSteps rest
  | .map _ :: rest | .tryMap _ :: rest | .copy :: rest | .look :: rest => partsOfSteps rest

end

mutual

theorem depthLimit_le_of_mem_parts {grammar part : Grammar ι κ} (member : part ∈ grammar.parts) :
    part.depthLimit ≤ grammar.depthLimit := by
  cases grammar with
  | leaf | exact | nextItem | succeed | ownLabel | here | refuse | rule | deferred =>
      rw [parts, List.mem_singleton] at member
      exact member ▸ le_rfl
  | failAfter _ _ _ p | labeled _ p | renamed _ p | relabeled _ p | optional p | attempt p
  | many p | many1 p | map p | tryMap p | watched _ p | traced p =>
      rw [parts] at member
      rcases List.mem_cons.mp member with rfl | inside
      · exact le_rfl
      · rw [depthLimit]
        exact depthLimit_le_of_mem_parts inside
  | both p q | keepFirst p q | keepSecond p q | separated p q | separated1 p q =>
      rw [parts] at member
      rcases List.mem_cons.mp member with rfl | inside
      · exact le_rfl
      · rw [depthLimit]
        rcases List.mem_append.mp inside with first | second
        · exact le_max_of_le_left (depthLimit_le_of_mem_parts first)
        · exact le_max_of_le_right (depthLimit_le_of_mem_parts second)
  | between before after p =>
      rw [parts] at member
      rcases List.mem_cons.mp member with rfl | inside
      · exact le_rfl
      · rw [depthLimit]
        rcases List.mem_append.mp inside with first | others
        · exact le_max_of_le_left (depthLimit_le_of_mem_parts first)
        · rcases List.mem_append.mp others with second | third
          · exact le_max_of_le_right (le_max_of_le_left (depthLimit_le_of_mem_parts second))
          · exact le_max_of_le_right (le_max_of_le_right (depthLimit_le_of_mem_parts third))
  | firstOf alternatives =>
      rw [parts] at member
      rcases List.mem_cons.mp member with rfl | inside
      · exact le_rfl
      · rw [depthLimit]
        exact depthLimit_le_of_mem_partsOfAll inside
  | chain first steps finish =>
      rw [parts] at member
      rcases List.mem_cons.mp member with rfl | inside
      · exact le_rfl
      · rw [depthLimit]
        rcases List.mem_append.mp inside with start | later
        · exact le_max_of_le_left (depthLimit_le_of_mem_parts start)
        · exact le_max_of_le_right (depthLimit_le_of_mem_partsOfSteps later)

theorem depthLimit_le_of_mem_partsOfAll {grammars : List (Grammar ι κ)} {part : Grammar ι κ}
    (member : part ∈ partsOfAll grammars) : part.depthLimit ≤ depthLimitOfAll grammars := by
  cases grammars with
  | nil => simp [partsOfAll] at member
  | cons p rest =>
      rw [partsOfAll] at member
      rw [depthLimitOfAll]
      rcases List.mem_append.mp member with head | tail
      · exact le_max_of_le_left (depthLimit_le_of_mem_parts head)
      · exact le_max_of_le_right (depthLimit_le_of_mem_partsOfAll tail)

theorem depthLimit_le_of_mem_partsOfSteps {steps : List (ChainStep (Grammar ι κ))}
    {part : Grammar ι κ} (member : part ∈ partsOfSteps steps) :
    part.depthLimit ≤ depthLimitOfSteps steps := by
  cases steps with
  | nil => simp [partsOfSteps] at member
  | cons step rest =>
      cases step with
      | both q | keepSecond q | keepFirst q =>
          rw [partsOfSteps] at member
          rw [depthLimitOfSteps]
          rcases List.mem_append.mp member with head | tail
          · exact le_max_of_le_left (depthLimit_le_of_mem_parts head)
          · exact le_max_of_le_right (depthLimit_le_of_mem_partsOfSteps tail)
      | map | tryMap | copy | look =>
          rw [partsOfSteps] at member
          rw [depthLimitOfSteps]
          exact depthLimit_le_of_mem_partsOfSteps member

end

end Grammar

namespace Rules

/-- The parts of all rules. -/
def parts (rules : Rules ι κ) : List (Grammar ι κ) := Grammar.partsOfAll (rules.map Prod.snd)

theorem depthLimit_le_of_mem {rules : Rules ι κ} {part : Grammar ι κ}
    (member : part ∈ rules.parts) : part.depthLimit ≤ rules.depthLimit :=
  Grammar.depthLimit_le_of_mem_partsOfAll member

theorem mem_parts_of_lookup {rules : Rules ι κ} {name : String} {grammar part : Grammar ι κ}
    (found : rules.lookup name = some grammar) (member : part ∈ grammar.parts) :
    part ∈ rules.parts := by
  induction rules with
  | nil => simp at found
  | cons rule rest ih =>
      obtain ⟨ruleName, ruleGrammar⟩ := rule
      simp only [parts, List.map_cons, Grammar.partsOfAll, List.mem_append]
      rw [List.lookup_cons] at found
      cases same : name == ruleName with
      | true =>
          simp only [same] at found
          cases found
          exact .inl member
      | false =>
          simp only [same] at found
          exact .inr (ih found)

end Rules

/-- The levels that a parse starts with cover the limits of all its parts. -/
theorem Grammar.le_levels {rules : Rules ι κ} {grammar part : Grammar ι κ}
    (member : part ∈ grammar.parts ++ rules.parts) :
    max part.depthLimit rules.depthLimit ≤ Grammar.levels rules grammar := by
  refine max_le ?_ (le_max_right _ _)
  rcases List.mem_append.mp member with own | ofRules
  · exact le_max_of_le_left (depthLimit_le_of_mem_parts own)
  · exact le_max_of_le_right (Rules.depthLimit_le_of_mem ofRules)

end Descent
