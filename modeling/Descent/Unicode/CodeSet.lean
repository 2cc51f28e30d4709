/-!
# Sets of code points

A character property is given as the maximal runs of code points that have it, in rising
order.  Looking a character up stops at the first run that does not lie wholly below it.
That the runs of a set rise is part of the set, and it is what this early stop rests on:
a code point is found just if it lies in one of the runs.
-/

namespace Descent.Unicode

/-- Runs of code points, each with its first and last member, rise and do not meet: the
first one starts at a bound or above, and the next one above its last member. -/
def Rising (bound : Nat) : List (Nat × Nat) → Prop
  | [] => True
  | (first, last) :: later => bound ≤ first ∧ first ≤ last ∧ Rising (last + 1) later

instance decidableRising : ∀ (bound : Nat) (runs : List (Nat × Nat)), Decidable (Rising bound runs)
  | _, [] => inferInstanceAs (Decidable True)
  | bound, (first, last) :: later =>
      have := decidableRising (last + 1) later
      inferInstanceAs (Decidable (bound ≤ first ∧ first ≤ last ∧ Rising (last + 1) later))

/-- Whether a code point lies in one of some runs, as far as the first one that ends at it or
above. -/
def covers : List (Nat × Nat) → Nat → Bool
  | [], _ => false
  | (first, last) :: later, code =>
      if code ≤ last then first ≤ code else covers later code

theorem le_of_rising {bound : Nat} {runs : List (Nat × Nat)} (rising : Rising bound runs)
    {run : Nat × Nat} (member : run ∈ runs) : bound ≤ run.1 := by
  induction runs generalizing bound with
  | nil => cases member
  | cons head later ih =>
      obtain ⟨first, last⟩ := head
      obtain ⟨above, ordered, laterRising⟩ := rising
      rcases List.mem_cons.mp member with here | there
      · subst here
        exact above
      · have := ih laterRising there
        omega

/-- On rising runs the early stop loses nothing. -/
theorem covers_iff {bound : Nat} {runs : List (Nat × Nat)} (rising : Rising bound runs)
    (code : Nat) : covers runs code = true ↔ ∃ run ∈ runs, run.1 ≤ code ∧ code ≤ run.2 := by
  induction runs generalizing bound with
  | nil => simp [covers]
  | cons head later ih =>
      obtain ⟨first, last⟩ := head
      obtain ⟨_, _, laterRising⟩ := rising
      by_cases below : code ≤ last
      · simp only [covers, below, if_true, decide_eq_true_eq, List.mem_cons]
        constructor
        · intro inside
          exact ⟨(first, last), .inl rfl, inside, below⟩
        · rintro ⟨run, here | there, inside, _⟩
          · subst here
            exact inside
          · have := le_of_rising laterRising there
            omega
      · simp only [covers, below, if_false, List.mem_cons]
        rw [ih laterRising]
        constructor
        · rintro ⟨run, member, bounds⟩
          exact ⟨run, .inr member, bounds⟩
        · rintro ⟨run, here | there, inside, above⟩
          · subst here
            exact absurd above below
          · exact ⟨run, there, inside, above⟩

/-- The code points with some property, as runs that rise. -/
structure CodeSet where
  runs : List (Nat × Nat)
  rising : Rising 0 runs

namespace CodeSet

/-- Whether a code point has the property. -/
def contains (set : CodeSet) (code : Nat) : Bool := covers set.runs code

theorem contains_iff (set : CodeSet) (code : Nat) :
    set.contains code = true ↔ ∃ run ∈ set.runs, run.1 ≤ code ∧ code ≤ run.2 :=
  covers_iff set.rising code

end CodeSet

end Descent.Unicode
