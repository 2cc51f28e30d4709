import Descent.Parser.Repetition

/-!
# Iterations of the repetition loop

What the loop of a repetition does is one of four things at each iteration.  Where its
parser never moves back, every iteration that a guarded loop goes on from has consumed
something, so there are hardly more calls than units consumed; without the guard there
are no more than the cap allows.
-/

namespace Descent

variable {σ ι ω α : Type} [Cursor σ ι ω]

def Cursor.consumed (s last : σ) : Nat := Cursor.position last - Cursor.position s

namespace Parser

/-- A run of the loop, with the number of times it calls its parser. -/
inductive Iterates (p : Parser σ ω α) (label : String) (requireProgress : Bool) :
    Nat → σ → Context ω → Nat → Step ω (List α × σ) → Prop where
  | capped (s : σ) (context : Context ω) :
      Iterates p label requireProgress 0 s context 0 ⟨([], s), context, []⟩
  | failed {cap : Nat} {s : σ} {context after : Context ω} {journal : Journal}
      {failed : Failed σ} :
      p.parse s context = ⟨.failure failed, after, journal⟩ →
        Iterates p label requireProgress (cap + 1) s context 1 ⟨([], s), after, journal⟩
  | stalled {cap : Nat} {s rest : σ} {context after : Context ω} {journal : Journal} {value : α} :
      p.parse s context = ⟨.success value rest, after, journal⟩ → requireProgress = true →
        Cursor.position rest = Cursor.position s →
          Iterates p label requireProgress (cap + 1) s context 1
            ⟨([], s), after,
              journal ++ [.warning (.stalled label p.label (Cursor.position s))]⟩
  | moved {cap calls : Nat} {s rest last : σ} {context after final : Context ω}
      {journal later : Journal} {value : α} {values : List α} :
      p.parse s context = ⟨.success value rest, after, journal⟩ →
        (requireProgress = true → Cursor.position rest ≠ Cursor.position s) →
          Iterates p label requireProgress cap rest after calls ⟨(values, last), final, later⟩ →
            Iterates p label requireProgress (cap + 1) s context (calls + 1)
              ⟨(value :: values, last), final, journal ++ later⟩

section

variable {p : Parser σ ω α} {requireProgress : Bool} {s rest : σ} {context after : Context ω}
  {journal : Journal}

theorem collect_failed {failed : Failed σ}
    (came : p.parse s context = ⟨.failure failed, after, journal⟩) (label : String) (cap : Nat) :
    p.collect label requireProgress (cap + 1) s context = ⟨([], s), after, journal⟩ := by
  simp [collect, Run.bind_apply, came, Run.pure_apply]

theorem collect_stalled {value : α}
    (came : p.parse s context = ⟨.success value rest, after, journal⟩)
    (guarded : requireProgress = true) (stuck : Cursor.position rest = Cursor.position s)
    (label : String) (cap : Nat) :
    p.collect label requireProgress (cap + 1) s context =
      ⟨([], s), after,
        journal ++ [.warning (.stalled label p.label (Cursor.position s))]⟩ := by
  simp [collect, Run.bind_apply, came, Run.map_apply, Run.write, guarded, stuck]

theorem collect_moved {value : α}
    (came : p.parse s context = ⟨.success value rest, after, journal⟩)
    (freed : requireProgress = true → Cursor.position rest ≠ Cursor.position s)
    (label : String) (cap : Nat) :
    p.collect label requireProgress (cap + 1) s context =
      let later := p.collect label requireProgress cap rest after
      ⟨(value :: later.value.1, later.value.2), later.context, journal ++ later.journal⟩ := by
  have goes : ¬(requireProgress = true ∧ Cursor.position rest = Cursor.position s) :=
    fun stalls => freed stalls.1 stalls.2
  simp [collect, Run.bind_apply, came, Run.map_apply, goes]

end

theorem collect_iterates (p : Parser σ ω α) (label : String) (requireProgress : Bool)
    (cap : Nat) (s : σ) (context : Context ω) :
    ∃ calls, p.Iterates label requireProgress cap s context calls
      (p.collect label requireProgress cap s context) := by
  induction cap generalizing s context with
  | zero => exact ⟨0, .capped s context⟩
  | succ cap ih =>
      rcases came : p.parse s context with ⟨outcome, after, journal⟩
      cases outcome with
      | failure failed => exact ⟨1, collect_failed came label cap ▸ .failed came⟩
      | success value rest =>
          by_cases stuck : requireProgress = true ∧ Cursor.position rest = Cursor.position s
          · obtain ⟨guarded, same⟩ := stuck
            exact ⟨1, collect_stalled came guarded same label cap ▸ .stalled came guarded same⟩
          · obtain ⟨calls, onward⟩ := ih rest after
            have freed : requireProgress = true → Cursor.position rest ≠ Cursor.position s :=
              fun guarded same => stuck ⟨guarded, same⟩
            exact ⟨calls + 1, collect_moved came freed label cap ▸ .moved came freed onward⟩

/-- The parser comes to rest where it started or after it. -/
def Forward (p : Parser σ ω α) : Prop :=
  ∀ s context, Cursor.position s ≤ Cursor.position (p.parse s context).value.remaining

namespace Iterates

variable {p : Parser σ ω α} {label : String} {requireProgress : Bool} {cap calls : Nat} {s : σ}
  {context : Context ω} {step : Step ω (List α × σ)}

theorem calls_le_cap (iterates : p.Iterates label requireProgress cap s context calls step) :
    calls ≤ cap := by
  induction iterates with
  | capped => exact Nat.le_refl 0
  | failed | stalled => omega
  | moved _ _ _ ih => omega

theorem forward (onward : p.Forward)
    (iterates : p.Iterates label requireProgress cap s context calls step) :
    Cursor.position s ≤ Cursor.position step.value.2 := by
  induction iterates with
  | capped | failed | stalled => exact Nat.le_refl _
  | @moved _ _ s _ _ context _ _ _ _ _ _ came _ _ ih =>
      have ahead := onward s context
      rw [came] at ahead
      exact Nat.le_trans ahead ih

theorem calls_le (onward : p.Forward) (guarded : requireProgress = true)
    (iterates : p.Iterates label requireProgress cap s context calls step) :
    step.value.1.length + Cursor.position s ≤ Cursor.position step.value.2 ∧
      calls + Cursor.position s ≤ Cursor.position step.value.2 + 1 := by
  induction iterates with
  | capped | failed | stalled =>
      dsimp only [List.length_nil]
      omega
  | @moved _ _ s _ _ context _ _ _ _ _ _ came freed _ ih =>
      have ahead := onward s context
      rw [came] at ahead
      -- The guard lets an iteration go on only if it has consumed something.
      have moved := freed guarded
      dsimp only [Outcome.remaining] at ahead ih ⊢
      rw [List.length_cons]
      omega

end Iterates

/-- How often loops over a parser call it, and how many values repetitions of it have.  A
repetition of any number of items always has some. -/
structure Bounded (p : Parser σ ω α) : Prop where
  loop : ∀ (label : String) (requireProgress : Bool) (cap : Nat) (s : σ) (context : Context ω),
    let step := p.collect label requireProgress cap s context
    ∃ calls, p.Iterates label requireProgress cap s context calls step ∧ calls ≤ cap ∧
      Cursor.position s ≤ Cursor.position step.value.2 ∧
      (requireProgress = true → calls ≤ Cursor.consumed s step.value.2 + 1)
  many : ∀ (limits : Limits) (label : String) (s : σ) (context : Context ω),
    ∃ values last, ((p.many limits).run label s context).value = .success values last ∧
      (limits.requireProgress = true → values.length ≤ Cursor.consumed s last)
  many1 : ∀ {limits : Limits} {label : String} {s last : σ} {context : Context ω}
    {values : List α}, ((p.many1 limits).run label s context).value = .success values last →
      limits.requireProgress = true → values.length ≤ Cursor.consumed s last + 1

theorem Forward.bounded {p : Parser σ ω α} (onward : p.Forward) : p.Bounded where
  loop label requireProgress cap s context := by
    obtain ⟨calls, iterates⟩ := p.collect_iterates label requireProgress cap s context
    refine ⟨calls, iterates, iterates.calls_le_cap, iterates.forward onward, ?_⟩
    intro guarded
    have bounds := iterates.calls_le onward guarded
    unfold Cursor.consumed
    omega
  many limits label s context := by
    obtain ⟨calls, iterates⟩ :=
      p.collect_iterates label limits.requireProgress limits.maxRepetitions s context
    refine ⟨_, _, rfl, ?_⟩
    intro guarded
    have bounds := (iterates.calls_le onward guarded).1
    exact Nat.le_sub_of_add_le bounds
  many1 {limits label s last context values} success guarded := by
    rcases came : p.parse s context with ⟨outcome, after, journal⟩
    cases outcome with
    | failure failed => simp [Parser.many1, Run.bind_apply, came, Run.pure_apply] at success
    | success value rest =>
        have ahead := onward s context
        rw [came] at ahead
        obtain ⟨calls, iterates⟩ := p.collect_iterates label limits.requireProgress
          (limits.maxRepetitions - 1) rest after
        have bounds := iterates.calls_le onward guarded
        simp only [Parser.many1, Run.bind_apply, came, Run.map_apply, Outcome.success.injEq]
          at success
        obtain ⟨rfl, rfl⟩ := success
        simp only [Outcome.remaining] at ahead
        simp only [List.length_cons, Cursor.consumed]
        omega

end Parser

end Descent
