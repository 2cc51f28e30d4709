import Descent.Parser.Basic

/-!
# Deferred parsers

A deferred parser is built anew whenever it runs, which lets a grammar refer to
itself.  As long as it runs it is open; with as many open deferred parsers as its
limit allows it fails where it stands instead, without being built.
-/

namespace Descent.Parser

variable {σ ι ω α : Type} [Cursor σ ι ω]

/-- Builds and runs a parser, provided that fewer than `limit` are open. -/
def deferred (label : String) (limit : Nat) (build : Unit → Logged (Parser σ ω α)) :
    Parser σ ω α where
  label := label
  run label s := do
    let depth ← Run.depth
    if limit < depth + 1 then
      Run.write (.warning (.tooDeep label limit depth (Cursor.position s)))
      return .fail label "recursion limit exceeded" s
    else
      Run.enter label
      let p ← Run.adopt (build ())
      let outcome ← p.parse s
      Run.exit label
      return outcome

section

variable {label current : String} {limit : Nat} {build : Unit → Logged (Parser σ ω α)} {s : σ}
  {context : Context ω}

/-- Below its limit a deferred parser opens, builds and runs its parser, and closes. -/
theorem deferred_run_open (room : context.depth < limit) :
    (deferred label limit build).run current s context =
      let inner := (build ()).value.parse s { context with depth := context.depth + 1 }
      ⟨inner.value, { inner.context with depth := inner.context.depth - 1 },
        .entered current context.depth ::
          ((build ()).journal ++ inner.journal ++ [.exited current])⟩ := by
  have notFull : ¬ limit < context.depth + 1 := by omega
  simp only [deferred, Run.bind_apply, Run.depth, notFull, ↓reduceIte, Run.enter, Run.adopt,
    Run.exit, Run.pure_apply, List.append_nil, List.nil_append, List.cons_append,
    List.append_assoc]

/-- At its limit a deferred parser warns and fails without building anything. -/
theorem deferred_run_full (full : limit ≤ context.depth) :
    (deferred label limit build).run current s context =
      ⟨.fail current "recursion limit exceeded" s, context,
        [.warning (.tooDeep current limit context.depth (Cursor.position s))]⟩ := by
  have isFull : limit < context.depth + 1 := by omega
  simp only [deferred, Run.bind_apply, Run.depth, isFull, ↓reduceIte, Run.write, Run.pure_apply,
    List.append_nil, List.nil_append]

end

end Descent.Parser
