import Descent.Parser.Deferred
import Descent.Parser.Repetition
import Descent.Parser.Transform

/-!
# What runs settle on

Where questions to a cursor change nothing that matters, a run comes to one value from all
contexts of a kind, and to a context of that kind.  What sequences, choices, transformations
and repetitions settle on is told by what their parts settle on.
-/

namespace Descent

variable {σ ι ω α β γ : Type}

namespace Run

/-- From all contexts of a kind, a computation comes to one value and to a context of that
kind. -/
structure Settles (run : Run ω α) (settled : Context ω → Prop) (value : α) : Prop where
  comes : ∀ context, settled context → (run context).value = value
  keeps : ∀ context, settled context → settled (run context).context

namespace Settles

variable {settled : Context ω → Prop} {value : α} {other : β}

theorem pure (value : α) : (Pure.pure value : Run ω α).Settles settled value :=
  ⟨fun _ _ => rfl, fun _ there => there⟩

theorem bind {run : Run ω α} {next : α → Run ω β} (first : run.Settles settled value)
    (later : (next value).Settles settled other) : (run >>= next).Settles settled other := by
  constructor
  · intro context there
    rw [bind_apply, first.comes context there]
    exact later.comes _ (first.keeps context there)
  · intro context there
    rw [bind_apply, first.comes context there]
    exact later.keeps _ (first.keeps context there)

theorem map {run : Run ω α} (f : α → β) (settles : run.Settles settled value) :
    (f <$> run).Settles settled (f value) :=
  ⟨fun context there => congrArg f (settles.comes context there), settles.keeps⟩

theorem adopt (logged : Logged α) : (Run.adopt logged).Settles settled logged.value :=
  ⟨fun _ _ => rfl, fun _ there => there⟩

theorem write (event : Event) : (Run.write event).Settles settled () :=
  ⟨fun _ _ => rfl, fun _ there => there⟩

end Settles

/-- A computation comes to a value and leaves its context as it is. -/
abbrev Yields (run : Run ω α) (context : Context ω) (value : α) : Prop :=
  run.Settles (· = context) value

namespace Yields

variable {run : Run ω α} {context : Context ω} {value : α}

theorem of_eq (comes : (run context).value = value) (keeps : (run context).context = context) :
    run.Yields context value := by
  constructor
  · rintro _ rfl
    exact comes
  · rintro _ rfl
    exact keeps

theorem comes (yields : run.Yields context value) : (run context).value = value :=
  Settles.comes yields context rfl

theorem keeps (yields : run.Yields context value) : (run context).context = context :=
  Settles.keeps yields context rfl

end Yields

end Run

open Run (Settles)

namespace Parser

variable {settled : Context ω → Prop} {s rest last : σ} {failed : Failed σ} {value : α}
  {next : β}

section

variable [Cursor σ ι ω] {p : Parser σ ω α} {outcome : Outcome σ α}

theorem guarded_settles (unread : (Run.ask (Cursor.atEnd s)).Settles settled false)
    (inner : (p.parse s).Settles settled outcome) :
    (p.guarded.parse s).Settles settled (outcome.relabel p.label) :=
  unread.bind (inner.map _)

theorem guarded_settles_end (ended : (Run.ask (Cursor.atEnd s)).Settles settled true) :
    (p.guarded.parse s).Settles settled (.fail p.label "EOF" s) :=
  ended.bind (.pure _)

end

section

variable {label : String} {combine : α → β → γ} {p : Parser σ ω α} {q : Parser σ ω β}

theorem runBoth_settles (first : (p.parse s).Settles settled (.success value rest))
    (second : (q.parse rest).Settles settled (.success next last)) :
    (runBoth label combine p q s).Settles settled (.success (combine value next) last) :=
  first.bind (second.bind (.pure _))

theorem runBoth_fails_first (first : (p.parse s).Settles settled (.failure failed)) :
    (runBoth label combine p q s).Settles settled (.failure (failed.relabel label)) :=
  first.bind (.pure _)

theorem runBoth_fails_second (first : (p.parse s).Settles settled (.success value rest))
    (second : (q.parse rest).Settles settled (.failure failed)) :
    (runBoth label combine p q s).Settles settled (.failure (failed.relabel label)) :=
  first.bind (second.bind (.pure _))

end

section

variable {p : Parser σ ω α} {later : List (Parser σ ω α)}

theorem firstSuccess_settles (succeeds : (p.parse s).Settles settled (.success value rest)) :
    (firstSuccess (p :: later) s).Settles settled (some (value, rest)) :=
  succeeds.bind (.pure _)

theorem firstSuccess_skips {result : Option (α × σ)}
    (fails : (p.parse s).Settles settled (.failure failed))
    (onward : (firstSuccess later s).Settles settled result) :
    (firstSuccess (p :: later) s).Settles settled result :=
  fails.bind onward

theorem firstSuccess_misses :
    (firstSuccess ([] : List (Parser σ ω α)) s).Settles settled none :=
  .pure _

theorem optional_settles (succeeds : (p.parse s).Settles settled (.success value rest)) :
    (p.optional.parse s).Settles settled (.success (some value) rest) :=
  succeeds.bind (.pure _)

theorem optional_skips (fails : (p.parse s).Settles settled (.failure failed)) :
    (p.optional.parse s).Settles settled (.success none s) :=
  fails.bind (.pure _)

end

theorem map_settles {p : Parser σ ω α} {outcome : Outcome σ α} (f : α → β)
    (settles : (p.parse s).Settles settled outcome) :
    ((p.map f).parse s).Settles settled (outcome.map f) :=
  settles.map _

section

variable {ε : Type} {p : Parser σ ω α} {f : α → Except ε β} {message : ε → String}

theorem tryMap_settles (succeeds : (p.parse s).Settles settled (.success value rest))
    (accepted : f value = .ok next) :
    ((p.tryMap f message).parse s).Settles settled (.success next rest) := by
  apply succeeds.bind
  simp only [accepted]
  exact .pure _

theorem tryMap_fails (fails : (p.parse s).Settles settled (.failure failed)) :
    ((p.tryMap f message).parse s).Settles settled (.failure failed) :=
  fails.bind (.pure _)

end

section

variable [Cursor σ ι ω] {context : Context ω} {label : String} {limit : Nat}
  {build : Unit → Logged (Parser σ ω α)}

/-- Below its limit a deferred parser comes to what its parser comes to, with one more open. -/
theorem deferred_yields {outcome : Outcome σ α} (room : context.depth < limit)
    (inner : ((build ()).value.parse s).Yields ⟨context.shared, context.depth + 1⟩ outcome) :
    ((deferred label limit build).parse s).Yields context outcome := by
  apply Run.Yields.of_eq
  · rw [parse, deferred_run_open room]
    exact inner.comes
  · rw [parse, deferred_run_open room]
    simp only [inner.keeps, Nat.add_sub_cancel]

theorem deferred_fails (full : limit ≤ context.depth) :
    ((deferred label limit build).parse s).Yields context
      (.fail label "recursion limit exceeded" s) := by
  apply Run.Yields.of_eq
  · rw [parse, deferred_run_full full]
    rfl
  · rw [parse, deferred_run_full full]

end

section

variable [Cursor σ ι ω] {p : Parser σ ω α} {label : String} {cap : Nat} {values : List α}

theorem collect_stops (fails : (p.parse s).Settles settled (.failure failed)) :
    (p.collect label true cap s).Settles settled ([], s) := by
  cases cap with
  | zero => exact .pure _
  | succ cap => exact fails.bind (.pure _)

theorem collect_goes (succeeds : (p.parse s).Settles settled (.success value rest))
    (moved : Cursor.position rest ≠ Cursor.position s)
    (onward : (p.collect label true cap rest).Settles settled (values, last)) :
    (p.collect label true (cap + 1) s).Settles settled (value :: values, last) := by
  apply succeeds.bind
  have goes : (true && Cursor.position rest == Cursor.position s) = false := by
    simp [moved]
  simp only [goes, Bool.false_eq_true, ↓reduceIte]
  exact onward.map _

/-- A value that was read without moving is dropped. -/
theorem collect_stalls (succeeds : (p.parse s).Settles settled (.success value rest))
    (stuck : Cursor.position rest = Cursor.position s) :
    (p.collect label true cap s).Settles settled ([], s) := by
  cases cap with
  | zero => exact .pure _
  | succ cap =>
      apply succeeds.bind
      have stalls : (true && Cursor.position rest == Cursor.position s) = true := by
        simp [stuck]
      simp only [stalls, ↓reduceIte]
      exact (Settles.write _).bind (.pure _)

variable {limits : Limits}

theorem many_settles (collected : (p.collect label limits.requireProgress limits.maxRepetitions
    s).Settles settled (values, last)) :
    ((p.many limits).run label s).Settles settled (.success values last) :=
  collected.map _

theorem many1_settles (first : (p.parse s).Settles settled (.success value rest))
    (collected : (p.collect label limits.requireProgress (limits.maxRepetitions - 1)
      rest).Settles settled (values, last)) :
    ((p.many1 limits).run label s).Settles settled (.success (value :: values) last) :=
  first.bind (collected.map _)

theorem many1_fails (first : (p.parse s).Settles settled (.failure failed)) :
    ((p.many1 limits).run label s).Settles settled (.failure (failed.relabel label)) :=
  first.bind (.pure _)

end

end Parser

end Descent
