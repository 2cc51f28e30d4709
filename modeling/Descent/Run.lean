import Descent.Journal

/-!
# Runs

A run reads and may change the state that all cursors over one input share, keeps
count of the deferred parsers that are open, and writes a journal.  A query is a
question to a cursor: it can change the shared state only.
-/

namespace Descent

variable {ω α β γ : Type}

/-- A question whose answer may depend on, and extend, what cursors share. -/
abbrev Query (ω α : Type) := ω → α × ω

/-- What a run starts from: the state that cursors share, and how many deferred
parsers are open. -/
structure Context (ω : Type) where
  shared : ω
  depth : Nat

/-- What a run comes to. -/
structure Step (ω α : Type) where
  value : α
  context : Context ω
  journal : Journal

/-- A computation over a context that writes a journal. -/
def Run (ω α : Type) : Type := Context ω → Step ω α

namespace Run

/-- Answers without touching anything. -/
@[inline] def pure (value : α) : Run ω α := fun context => ⟨value, context, []⟩

/-- Runs one computation after another, in the context the first one leaves. -/
@[inline] def bind (first : Run ω α) (next : α → Run ω β) : Run ω β := fun context =>
  let before := first context
  let after := next before.value before.context
  ⟨after.value, after.context, before.journal ++ after.journal⟩

/-- Changes the answer of a computation. -/
@[inline] def map (f : α → β) (run : Run ω α) : Run ω β := fun context =>
  let step := run context
  ⟨f step.value, step.context, step.journal⟩

@[inline] instance : Monad (Run ω) where
  pure := pure
  bind := bind
  map := map

/-- Writes one entry. -/
@[inline] def write (event : Event) : Run ω Unit := fun context => ⟨(), context, [event]⟩

/-- Asks a cursor. -/
@[inline] def ask (query : Query ω α) : Run ω α := fun context =>
  let (answer, shared) := query context.shared
  ⟨answer, { context with shared := shared }, []⟩

/-- How many deferred parsers are open. -/
@[inline] def depth : Run ω Nat := fun context => ⟨context.depth, context, []⟩

/-- Opens a deferred parser. -/
@[inline] def enter (label : String) : Run ω Unit := fun context =>
  ⟨(), { context with depth := context.depth + 1 }, [.entered label context.depth]⟩

/-- Closes a deferred parser. -/
@[inline] def exit (label : String) : Run ω Unit := fun context =>
  ⟨(), { context with depth := context.depth - 1 }, [.exited label]⟩

/-- Takes over a value together with what was written while making it. -/
@[inline] def adopt (logged : Logged α) : Run ω α := fun context =>
  ⟨logged.value, context, logged.journal⟩

theorem pure_apply (value : α) (context : Context ω) :
    (Pure.pure value : Run ω α) context = ⟨value, context, []⟩ := rfl

theorem bind_apply (first : Run ω α) (next : α → Run ω β) (context : Context ω) :
    (first >>= next) context =
      ⟨(next (first context).value (first context).context).value,
        (next (first context).value (first context).context).context,
        (first context).journal ++
          (next (first context).value (first context).context).journal⟩ := rfl

theorem map_apply (f : α → β) (run : Run ω α) (context : Context ω) :
    (f <$> run) context =
      ⟨f (run context).value, (run context).context, (run context).journal⟩ := rfl

theorem ask_apply (query : Query ω α) (context : Context ω) :
    (ask query) context =
      ⟨(query context.shared).1, ⟨(query context.shared).2, context.depth⟩, []⟩ := rfl

private theorem run_ext {first second : Run ω α}
    (same : ∀ context, first context = second context) : first = second :=
  funext same

instance : LawfulMonad (Run ω) where
  map_const := rfl
  id_map _ := rfl
  seqLeft_eq first second := run_ext fun context => by
    simp [SeqLeft.seqLeft, Seq.seq, bind, pure, map, Functor.map]
  seqRight_eq first second := run_ext fun context => by
    simp [SeqRight.seqRight, Seq.seq, bind, map, Functor.map]
  pure_seq f run := run_ext fun context => by
    simp [Seq.seq, Pure.pure, bind, pure, map, Functor.map]
  bind_pure_comp f run := run_ext fun context => by
    simp [bind_apply, map_apply, pure_apply]
  bind_map first run := rfl
  pure_bind value next := run_ext fun context => by
    simp [bind_apply, pure_apply]
  bind_assoc run next last := run_ext fun context => by
    simp [bind_apply, List.append_assoc]

end Run

end Descent
