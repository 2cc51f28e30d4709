import Mathlib.Data.List.Induction
import Descent.Proofs.Comparison.Symbols

/-!
# How many deferred parsers are open at most

A deferred parser opens only below its own limit.  So in a parse never more of them are
open than the largest limit in sight, or than were open when it started.
-/

namespace Descent

/-- Nothing may differ, and deferred parsers have limits up to a bound. -/
def Variation.confined (κ : Type) (bound : Nat) : Variation κ where
  sameLabels := True
  leaves := Eq
  repetitions := Eq
  deferrals limits other := limits = other ∧ limits.maxRecursionDepth ≤ bound
  attempts := False

theorem Variation.confined_covers {ι κ : Type} {bound : Nat} {part : Grammar ι κ}
    (within : part.depthLimit ≤ bound) : (confined κ bound).Covers part := by
  cases part with
  | deferred label name limits =>
      rw [Grammar.depthLimit] at within
      exact ⟨rfl, within⟩
  | leaf | many | many1 | separated | separated1 => rfl
  | _ => trivial

/-- A run beside itself, with deferred parsers opened below a bound. -/
def Comparison.confined (σ κ : Type) {ι ω : Type} [Cursor σ ι ω] (bound : Nat) :
    Comparison σ κ where
  toVariation := .confined κ bound
  permits _ := True
  opens depth := depth < bound
  cap same := by rw [same]
  progress same := .inl (by rw [same])
  room confined depth below := by
    obtain ⟨_, within⟩ := confined
    omega
  depth confined := .inl (by rw [confined.1])

theorem Comparison.confined_symbolic {σ ω : Type} [SymbolCursor σ ω] (bound : Nat) :
    (confined σ TextLeaf bound).Symbolic where
  takeSymbol_ahead _ := trivial
  leaves same := by
    cases same
    exact .same _
  standard := rfl

/-- In nested brackets that open below a bound, as many are open as the bound or as were
open before. -/
theorem Journal.Bracketed.opening_le {depth bound : Nat} {journal : Journal}
    (bracketed : Bracketed depth journal)
    (below : ∀ label count, .entered label count ∈ journal → count < bound)
    {before later : Journal} (split : journal = before ++ later) :
    depth + before.opening ≤ max (depth : Int) bound := by
  induction before using List.reverseRecOn generalizing later with
  | nil => simp [Journal.opening]
  | append_singleton before event ih =>
      rw [List.append_assoc, List.singleton_append] at split
      have earlier := ih split
      have told := bracketed.tells split
      rw [opening_append, opening_cons]
      cases event with
      -- Only an opening can exceed what was open before, and it tells how many were.
      | entered label count =>
          have room := below label count (by simp [split])
          simp only [Event.Tells] at told
          simp only [Event.opening, Journal.opening]
          omega
      | exited label =>
          simp only [Event.opening, Journal.opening]
          omega
      | _ => simpa [Event.opening, Journal.opening] using earlier

variable {σ ι κ ω : Type} [Cursor σ ι ω] [Item ι] [Leaves κ σ ω]

theorem Grammar.parse_opens (counted : (Correspondence.counted σ).Leafwise κ)
    {rules : Rules ι κ} {grammar : Grammar ι κ}
    (leaves : (Comparison.confined σ κ (Grammar.levels rules grammar)).Leafwise) {s : σ}
    {context : Context ω} {label : String} {count : Nat}
    (member : .entered label count ∈ (grammar.parse rules s context).journal) :
    count < Grammar.levels rules grammar := by
  have covers : ∀ part ∈ grammar.parts ++ rules.parts,
      (Variation.confined κ (Grammar.levels rules grammar)).Covers part :=
    fun part member =>
      Variation.confined_covers ((le_max_left _ _).trans (Grammar.le_levels member))
  rw [List.forall_mem_append] at covers
  have runs := Comparison.parse_agree counted leaves (Rules.varies_self covers.2)
    (Grammar.varies_self covers.1) s
  have ends := runs context (Nat.zero_le _) fun _ _ => trivial
  have alike := List.forall₂_same.mp ends.journal _ member
  cases alike with
  | entered _ opened => exact opened

theorem Grammar.parse_opening_le (counted : (Correspondence.counted σ).Leafwise κ)
    {rules : Rules ι κ} {grammar : Grammar ι κ}
    (leaves : (Comparison.confined σ κ (Grammar.levels rules grammar)).Leafwise) {s : σ}
    {context : Context ω} {before later : Journal}
    (split : (grammar.parse rules s context).journal = before ++ later) :
    context.depth + before.opening ≤ max (context.depth : Int) (Grammar.levels rules grammar) := by
  obtain ⟨_, bracketed⟩ := grammar.parse_counts counted rules s context
  exact bracketed.opening_le (fun _ _ => Grammar.parse_opens counted leaves) split

end Descent
