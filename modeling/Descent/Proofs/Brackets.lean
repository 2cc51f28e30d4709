import Descent.Proofs.Correspondence.Invariant

/-!
# Journals as nested brackets

In the journal of a parse the marks of deferred parsers are nested like brackets.  An
entry that tells how many are open tells the number of brackets around it, counting
those that were open when the parse started.
-/

namespace Descent

/-- Entries written while so many deferred parsers are open, up to a point where as
many are open again. -/
inductive Journal.Bracketed : Nat → Journal → Prop where
  | nil {depth : Nat} : Bracketed depth []
  | entry {depth : Nat} {event : Event} {later : Journal} :
      event.concernsDepth = false → Bracketed depth later → Bracketed depth (event :: later)
  | tooDeep {depth limit position : Nat} {label : String} {later : Journal} :
      limit ≤ depth → Bracketed depth later →
        Bracketed depth (.warning (.tooDeep label limit depth position) :: later)
  | run {depth : Nat} {label : String} {inner later : Journal} :
      Bracketed (depth + 1) inner → Bracketed depth later →
        Bracketed depth (.entered label depth :: (inner ++ .exited label :: later))

/-- What an entry tells of the number of open deferred parsers is right. -/
def Event.Tells (opened : Int) : Event → Prop
  | .entered _ depth => depth = opened
  | .warning (.tooDeep _ limit depth _) => depth = opened ∧ limit ≤ depth
  | _ => True

theorem Event.opening_eq_zero {event : Event} (other : event.concernsDepth = false) :
    event.opening = 0 := by
  cases event with
  | entered | exited => simp [Event.concernsDepth] at other
  | _ => rfl

theorem Event.tells_of_other {event : Event} (other : event.concernsDepth = false)
    (opened : Int) : event.Tells opened := by
  cases event with
  | entered => simp [Event.concernsDepth] at other
  | warning warning =>
      cases warning with
      | tooDeep => simp [Event.concernsDepth] at other
      | stalled => trivial
  | _ => trivial

theorem Journal.opening_cons (event : Event) (later : Journal) :
    Journal.opening (event :: later) = event.opening + later.opening := rfl

namespace Journal.Bracketed

variable {depth : Nat} {journal first second : Journal}

theorem append (before : Bracketed depth first) (after : Bracketed depth second) :
    Bracketed depth (first ++ second) := by
  induction before with
  | nil => exact after
  | entry other _ ih => exact .entry other (ih after)
  | tooDeep full _ ih => exact .tooDeep full (ih after)
  | @run _ label inner later bracketed _ _ ih =>
      have joined := @Bracketed.run _ label _ _ bracketed (ih after)
      simpa using joined

/-- Every bracket is closed. -/
theorem opening_eq_zero (bracketed : Bracketed depth journal) : journal.opening = 0 := by
  induction bracketed with
  | nil => rfl
  | entry other _ ih => rw [opening_cons, Event.opening_eq_zero other, ih, Int.zero_add]
  | tooDeep _ _ ih => rw [opening_cons, ih]; rfl
  | run _ _ innerClosed laterClosed =>
      rw [opening_cons, opening_append, opening_cons, innerClosed, laterClosed]
      rfl

/-- Whatever comes before an entry, the entry tells how many brackets that leaves open. -/
theorem tells (bracketed : Bracketed depth journal) {before later : Journal} {event : Event}
    (split : journal = before ++ event :: later) : event.Tells (depth + before.opening) := by
  induction bracketed generalizing before later with
  | nil => simp at split
  | entry other _ ih =>
      cases before with
      | nil =>
          cases split
          exact Event.tells_of_other other _
      | cons head before =>
          cases split
          rw [opening_cons, Event.opening_eq_zero other, Int.zero_add]
          exact ih rfl
  | tooDeep full _ ih =>
      cases before with
      | nil =>
          cases split
          exact ⟨(Int.add_zero _).symm, full⟩
      | cons head before =>
          cases split
          rw [opening_cons]
          exact (Int.zero_add _).symm ▸ ih rfl
  | @run depth label inner last closed _ innerTells lastTells =>
      cases before with
      | nil =>
          cases split
          exact (Int.add_zero _).symm
      | cons head before =>
          obtain ⟨rfl, remaining⟩ := List.cons.inj split
          -- the entry is inside the bracket, its closing mark, or after it
          rcases List.append_eq_append_iff.mp remaining with
            ⟨beyond, rfl, here⟩ | ⟨within, inside, here⟩
          · cases beyond with
            | nil =>
                cases here
                trivial
            | cons mark beyond =>
                cases here
                have balanced : Journal.opening (.entered label depth ::
                    (inner ++ .exited label :: beyond)) = Journal.opening beyond := by
                  rw [opening_cons, opening_append, opening_cons, closed.opening_eq_zero]
                  simp only [Event.opening]
                  omega
                rw [balanced]
                exact lastTells rfl
          · cases within with
            | nil =>
                cases here
                trivial
            | cons mark within =>
                cases here
                have nested := innerTells inside
                have deeper : ((depth + 1 : Nat) : Int) + Journal.opening before =
                    depth + Journal.opening (.entered label depth :: before) := by
                  rw [opening_cons]
                  simp only [Event.opening]
                  omega
                rwa [deeper] at nested

end Journal.Bracketed

/-- Equal journals correspond if they are nested brackets. -/
def JournalRelation.counting : JournalRelation where
  relates depth first second := first = second ∧ Journal.Bracketed depth first
  positions left right := left = right
  nil _ := ⟨rfl, .nil⟩
  append earlier later := by
    obtain ⟨rfl, before⟩ := earlier
    obtain ⟨rfl, after⟩ := later
    exact ⟨rfl, before.append after⟩
  entry event other same := by
    subst same
    exact ⟨rfl, .entry (other _) .nil⟩
  composed _ _ := ⟨rfl, .entry rfl .nil⟩
  tooDeep label full same := by
    subst same
    exact ⟨rfl, .tooDeep full .nil⟩
  bracketed label inner := by
    obtain ⟨rfl, closed⟩ := inner
    exact ⟨rfl, .run closed .nil⟩

end Descent
