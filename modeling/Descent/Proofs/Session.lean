import Descent.Proofs.Correspondence.Invariant
import Descent.Session

/-!
# Invariants of sessions

The shared state of an input changes only by what cursors over that input ask, and
new cursors over it come only from earlier ones.  An invariant that parsers keep, and
the remaining questions of a session too, therefore holds from the time the input is
added, whatever else the session does.
-/

namespace Descent

variable {σ ι κ ω α : Type} [Inspectable σ ι ω] [Leaves κ σ ω]

/-- An invariant is kept by everything that a session does with a cursor. -/
structure Invariant.Observed (invariant : Invariant σ) (κ : Type) [Leaves κ σ ω] : Prop where
  describe : ∀ {s}, invariant.cursors s → ∀ state, invariant.shared state →
    invariant.shared (Inspectable.describe s state).2
  symbol : ∀ query ∈ (Inspectable.symbol? : Option (σ → (Char → Bool) → _)),
    ∀ {s}, invariant.cursors s → ∀ accept,
      Query.Keeps invariant.shared invariant.cursors (query s accept)
  foldingCase : ∀ {s t}, invariant.cursors s → Inspectable.foldingCase? s = some t →
    invariant.cursors t
  leaves : (invariant.diagonal .unrestricted fun _ => trivial).Leafwise κ

namespace Session

variable {session later : Session σ ω} {invariant : Invariant σ} {input other : Nat}

/-- The shared state of an input and all cursors over it have an invariant. -/
structure Holds (session : Session σ ω) (input : Nat) (invariant : Invariant σ) : Prop where
  shared : ∃ state, session.inputs[input]? = some state ∧ invariant.shared state
  cursors : ∀ entry ∈ session.registers, entry.input = input → invariant.cursors entry.cursor

namespace Holds

theorem register {number : Nat} {entry : Register σ} (holds : session.Holds input invariant)
    (found : session.registers[number]? = some entry) (own : entry.input = input) :
    invariant.cursors entry.cursor :=
  holds.cursors entry (Array.mem_of_getElem? found) own

theorem store (holds : session.Holds input invariant) {cursor : σ}
    (there : other = input → invariant.cursors cursor) :
    (session.store other cursor).2.Holds input invariant := by
  refine ⟨holds.shared, ?_⟩
  intro entry member own
  rcases Array.mem_push.mp member with earlier | rfl
  · exact holds.cursors entry earlier own
  · exact there own

/-- A computation on one input leaves the shared states of all others alone. -/
theorem within {run : Run ω α} {step : Step ω α} (holds : session.Holds input invariant)
    (post : α → Prop)
    (keeps : other = input → ∀ context, invariant.shared context.shared →
      post (run context).value ∧ invariant.shared (run context).context.shared)
    (ran : session.within other run = some (step, later)) :
    later.Holds input invariant ∧ (other = input → post step.value) := by
  obtain ⟨state, present, shared⟩ := holds.shared
  rw [Session.within, Option.map_eq_some_iff] at ran
  obtain ⟨otherState, otherPresent, rest⟩ := ran
  cases rest
  by_cases own : other = input
  · subst own
    rw [present, Option.some.injEq] at otherPresent
    subst otherPresent
    obtain ⟨answered, kept⟩ := keeps rfl ⟨state, session.depth⟩ shared
    refine ⟨⟨⟨_, ?_, kept⟩, holds.cursors⟩, fun _ => answered⟩
    have bound : other < session.inputs.size := (Array.getElem?_eq_some_iff.mp present).1
    simp [bound]
  · refine ⟨⟨⟨state, ?_, shared⟩, holds.cursors⟩, fun same => absurd same own⟩
    simp [own, present]

theorem inquire {number : Nat} {query : σ → Query ω α} {answer : α → Answer σ}
    (holds : session.Holds input invariant)
    (keeps : ∀ {s}, invariant.cursors s → ∀ state, invariant.shared state →
      invariant.shared (query s state).2) :
    (session.inquire number query answer).2.Holds input invariant := by
  unfold Session.inquire
  cases found : session.registers[number]? with
  | none => exact holds
  | some entry =>
      simp only
      cases ran : session.within entry.input (Run.ask (query entry.cursor)) with
      | none => exact holds
      | some result =>
          obtain ⟨step, later⟩ := result
          have kept := holds.within (fun _ => True) (fun own context shared =>
            ⟨trivial, keeps (holds.register found own) _ shared⟩) ran
          exact kept.1

theorem consume [Item ι] {number : Nat} {query : σ → Query ω (Option (ι × σ))}
    (holds : session.Holds input invariant)
    (keeps : ∀ {s}, invariant.cursors s →
      Query.Keeps invariant.shared invariant.cursors (query s)) :
    (session.consume number query).2.Holds input invariant := by
  unfold Session.consume
  cases found : session.registers[number]? with
  | none => exact holds
  | some entry =>
      simp only
      cases ran : session.within entry.input (Run.ask (query entry.cursor)) with
      | none => exact holds
      | some result =>
          obtain ⟨step, later⟩ := result
          have kept := holds.within (fun answer => ∀ taken ∈ answer, invariant.cursors taken.2)
            (fun own context shared => (keeps (holds.register found own) _ shared).symm) ran
          cases answered : step.value with
          | none => simpa only [answered] using kept.1
          | some taken =>
              simp only [answered]
              exact kept.1.store fun own => kept.2 own taken answered

variable [Item ι] {rules : Rules ι κ}

theorem parse (observed : invariant.Observed κ) {s : σ} (there : invariant.cursors s)
    (grammar : Grammar ι κ) (context : Context ω) (shared : invariant.shared context.shared) :
    let examined := ((grammar.parser rules).value.examine s) context
    invariant.cursors examined.value.outcome.remaining ∧
      invariant.shared examined.context.shared := by
  obtain ⟨rested, kept, _⟩ := Invariant.parse observed.leaves rules grammar there context shared
  have looked := invariant.atEnd rested _ kept
  exact ⟨rested, invariant.peek rested _ looked⟩

/-- Every command keeps an invariant. -/
theorem step (observed : invariant.Observed κ) (holds : session.Holds input invariant)
    (command : Command σ ι κ ω) : (session.step rules command).2.Holds input invariant := by
  cases command with
  | begin source =>
      obtain ⟨state, present, shared⟩ := holds.shared
      have bound : input < session.inputs.size := (Array.getElem?_eq_some_iff.mp present).1
      have added : Session.Holds { session with inputs := session.inputs.push source.shared }
          input invariant := by
        refine ⟨⟨state, ?_, shared⟩, holds.cursors⟩
        simp only [Array.getElem?_push, Nat.ne_of_lt bound, if_false, present]
      exact added.store fun own => absurd own (Nat.ne_of_gt bound)
  | copy number =>
      simp only [Session.step]
      cases found : session.registers[number]? with
      | none => exact holds
      | some entry => exact holds.store (holds.register found)
  | foldCase number =>
      simp only [Session.step]
      cases found : session.registers[number]? with
      | none => exact holds
      | some entry =>
          simp only
          cases folded : Inspectable.foldingCase? entry.cursor with
          | none => exact holds
          | some cursor =>
              exact holds.store fun own =>
                observed.foldingCase (holds.register found own) folded
  | take number item => exact holds.consume fun there => invariant.take there item
  | takeSymbol number accept =>
      simp only [Session.step]
      cases judged : (Inspectable.symbol? : Option (σ → (Char → Bool) → _)) with
      | none => exact holds
      | some query => exact holds.consume fun there => observed.symbol query judged there accept
  | parse number grammar =>
      simp only [Session.step]
      cases found : session.registers[number]? with
      | none => exact holds
      | some entry =>
          simp only
          cases ran : session.within entry.input
              ((grammar.parser rules).value.examine entry.cursor) with
          | none => exact holds
          | some result =>
              obtain ⟨step, later⟩ := result
              have kept := holds.within
                (fun report => invariant.cursors report.outcome.remaining)
                (fun own => parse observed (holds.register found own) grammar) ran
              exact kept.1.store kept.2
  | next number => exact holds.inquire invariant.peek
  | atEnd number => exact holds.inquire invariant.atEnd
  | describe number => exact holds.inquire observed.describe
  | buffered number => exact holds.inquire fun _ _ shared => shared
  | position number | rest number | options number => exact holds
  | same first second =>
      simp only [Session.step]
      split <;> exact holds

end Holds

variable [Item ι]

/-- The session after commands, each with the rules that its grammar refers to. -/
def after (session : Session σ ω) (commands : List (Rules ι κ × Command σ ι κ ω)) :
    Session σ ω :=
  commands.foldl (fun session command => (session.step command.1 command.2).2) session

theorem Holds.after (observed : invariant.Observed κ) (holds : session.Holds input invariant)
    (commands : List (Rules ι κ × Command σ ι κ ω)) :
    (session.after commands).Holds input invariant := by
  induction commands generalizing session with
  | nil => exact holds
  | cons command later ih => exact ih (holds.step observed command.2)

/-- The session that adds an input and then carries out commands. -/
def opened (source : Source σ ω) (commands : List (Rules ι κ × Command σ ι κ ω)) :
    Session σ ω :=
  Session.empty.after (([], .begin source) :: commands)

theorem holds_opened (observed : invariant.Observed κ) {source : Source σ ω}
    (cursor : invariant.cursors source.cursor) (shared : invariant.shared source.shared)
    (commands : List (Rules ι κ × Command σ ι κ ω)) :
    (Session.opened source commands).Holds 0 invariant := by
  have begun : (Session.empty.step ([] : Rules ι κ) (.begin source)).2.Holds 0 invariant := by
    refine ⟨⟨source.shared, rfl, shared⟩, ?_⟩
    intro entry member _
    have only : entry = ⟨0, source.cursor⟩ := by
      simpa [Session.step, Session.store, Session.empty] using member
    rw [only]
    exact cursor
  exact begun.after observed commands

end Session

end Descent
