import Descent.Parser.Deferred
import Descent.Parser.Repetition
import Descent.Parser.Transform
import Descent.Proofs.Conduct.Basic

/-!
# Combinators keep a conduct

Parsers composed of parsers that keep to a conduct keep to it as well.  A composed parser
moves the cursor as soon as one operand that has to succeed does.
-/

namespace Descent.Conduct

variable {σ ι ω α β γ δ ε : Type} [Cursor σ ι ω] {c : Conduct σ} {moves further : Bool}

namespace Parsers

variable {p : Parser σ ω α} {q : Parser σ ω β}

theorem parse (keeps : c.Parsers moves p) (s : σ) : c.Runs (c.Rests moves s) (p.parse s) :=
  keeps p.label s

theorem weaken (keeps : c.Parsers moves p) (fewer : further = true → moves = true) :
    c.Parsers further p := by
  intro label s context
  obtain ⟨rests, quiet⟩ := keeps label s context
  exact ⟨rests.weaken fewer, quiet⟩

theorem withLabel (keeps : c.Parsers moves p) (label : String) :
    c.Parsers moves (p.withLabel label) :=
  keeps

theorem called (keeps : c.Parsers moves p) (name : Option String) :
    c.Parsers moves (p.called name) := by
  cases name <;> exact keeps

theorem succeed (label : String) (value : α) :
    c.Parsers (σ := σ) false (.succeed label value) :=
  fun _ s => .pure (.success (.refl s))

theorem ownLabel (label : String) (value : String → α) :
    c.Parsers (σ := σ) false (.ownLabel label value) :=
  fun _ s => .pure (.success (.refl s))

theorem here (label : String) (value : Nat → α) :
    c.Parsers (σ := σ) false (.here label value) :=
  fun _ s => .pure (.success (.refl s))

theorem refuse (label reason : String) : c.Parsers (α := α) moves (.refuse label reason) :=
  fun current s => .pure (.fail current reason s)

theorem relabeled (keeps : c.Parsers moves p) (label : String) :
    c.Parsers moves (p.relabeled label) :=
  fun _ s => (keeps.parse s).map fun _ rests => rests.relabel label

theorem guarded (keeps : c.Parsers moves p) : c.Parsers moves p.guarded := by
  intro current s
  apply (Runs.ask (Cursor.atEnd s)).bind
  intro ended _
  cases ended with
  | true => exact .pure (.fail current "EOF" s)
  | false => exact (keeps.parse s).map fun _ rests => rests.relabel current

theorem create {run : σ → Run ω (Outcome σ α)} (keeps : ∀ s, c.Runs (c.Rests moves s) (run s))
    (label : String) : c.Parsers moves (.create label run) := by
  have bare : c.Parsers moves ⟨label, fun _ s => run s⟩ := fun _ s => keeps s
  exact bare.guarded

theorem labeled (keeps : c.Parsers moves p) (label : String) :
    c.Parsers moves (.labeled label p) :=
  create keeps.parse label

/-- A parser that always fails moves whatever it has to. -/
theorem failAfter (keeps : c.Parsers moves p) (label inner reason : String) :
    c.Parsers (α := β) further (.failAfter label inner reason p) := by
  refine create ?_ label
  intro s
  exact (keeps.parse s).map fun outcome _ => .fail inner reason outcome.remaining

theorem exact [Item ι] {items : ι → Bool} (consumes : Cursor.Consumes σ items) (expected : ι) :
    c.Parsers (σ := σ) (items expected) (.exact expected) := by
  apply guarded
  intro current s
  apply (Runs.ask (Cursor.take? s expected)).bind
  rintro taken ⟨state, rfl⟩
  have ahead := consumes.take s expected state
  cases answered : (Cursor.take? s expected state).1 with
  | none => exact .pure (.fail current "exact value not found" s)
  | some taken => exact .pure (.success (ahead taken answered))

theorem nextItem [Item ι] {items : ι → Bool} (consumes : Cursor.Consumes σ items) (label : String)
    (value : ι → α) : c.Parsers (σ := σ) true (.nextItem label value) := by
  refine create ?_ label
  intro s
  apply (Runs.ask (Cursor.peek? s)).bind
  rintro next ⟨state, rfl⟩
  have shown := consumes.peek s state
  cases answered : (Cursor.peek? s state).1 with
  | none => exact .pure (.fail "" "no item" s)
  | some item =>
      apply (Runs.ask (Cursor.take? s item)).bind
      rintro taken ⟨state, rfl⟩
      have ahead := consumes.take s item state
      rw [shown item answered] at ahead
      cases answered : (Cursor.take? s item state).1 with
      | none => exact .pure (.fail "" "no item" s)
      | some taken => exact .pure (.success (ahead taken answered))

theorem runBoth (first : c.Parsers moves p) (second : c.Parsers further q) (label : String)
    (combine : α → β → γ) (s : σ) :
    c.Runs (c.Rests (moves || further) s) (Parser.runBoth label combine p q s) := by
  apply (first.parse s).bind
  intro outcome rests
  cases rests with
  | failure allowed => exact .pure (.failure (c.relabel label allowed))
  | success moved =>
      apply (second.parse _).bind
      intro outcome rests
      cases rests with
      | failure allowed => exact .pure (.failure (c.relabel label allowed))
      | success onward => exact .pure (.success (moved.trans onward))

theorem both (first : c.Parsers moves p) (second : c.Parsers further q) :
    c.Parsers (moves || further) (p.both q) :=
  fun label s => first.runBoth second label Prod.mk s

theorem keepFirst (first : c.Parsers moves p) (second : c.Parsers further q) :
    c.Parsers (moves || further) (p.keepFirst q) :=
  fun label s => first.runBoth second label _ s

theorem keepSecond (first : c.Parsers moves p) (second : c.Parsers further q) :
    c.Parsers (moves || further) (p.keepSecond q) :=
  fun label s => first.runBoth second label _ s

theorem between {inside : Bool} {r : Parser σ ω γ} (before : c.Parsers moves p)
    (after : c.Parsers further q) (middle : c.Parsers inside r) :
    c.Parsers (moves || inside || further) (.between p q r) :=
  ((before.keepSecond middle).keepFirst after).labeled "BETWEEN"

theorem optional (keeps : c.Parsers moves p) : c.Parsers false p.optional := by
  intro label s
  apply (keeps.parse s).bind
  intro outcome rests
  cases rests with
  | success moved => exact .pure (.success (moved.weaken Bool.noConfusion))
  | failure _ => exact .pure (.success (.refl s))

theorem attempt (keeps : c.Parsers moves p) : c.Parsers moves p.attempt :=
  fun label s => (keeps.parse s).map fun _ rests => (rests.relabel label).rewind s

theorem firstSuccess {ps : List (Parser σ ω α)} (keeps : ∀ p ∈ ps, c.Parsers moves p) (s : σ) :
    c.Runs (fun found => ∀ taken ∈ found, Cursor.Ahead moves s taken.2)
      (Parser.firstSuccess ps s) := by
  induction ps with
  | nil => exact .pure fun _ member => by cases member
  | cons p later ih =>
      rw [List.forall_mem_cons] at keeps
      apply (keeps.1.parse s).bind
      intro outcome rests
      cases rests with
      | success moved =>
          refine .pure ?_
          intro taken member
          cases member
          exact moved
      | failure _ => exact ih keeps.2

theorem firstOf {ps : List (Parser σ ω α)} (keeps : ∀ p ∈ ps, c.Parsers moves p) :
    c.Parsers moves (.firstOf ps) := by
  apply guarded
  intro current s
  apply (firstSuccess keeps s).bind
  intro found moved
  cases found with
  | some found => exact .pure (.success (moved found rfl))
  | none => exact .pure (.fail current "no alternative matched" s)

theorem collect (keeps : c.Parsers moves p) (consuming : c.stalls ∨ moves = true)
    (label : String) (guard : Bool) (cap : Nat) (s : σ) :
    c.Runs (fun collected => Cursor.Ahead false s collected.2)
      (Parser.collect p label guard cap s) := by
  induction cap generalizing s with
  | zero => exact .pure (.refl s)
  | succ cap ih =>
      apply (keeps.parse s).bind
      intro outcome rests
      cases rests with
      | failure _ => exact .pure (.refl s)
      | @success value rest moved =>
          by_cases stalled : (guard && Cursor.position rest == Cursor.position s) = true
          · simp only [stalled, if_true]
            -- An item that consumes something does not come to rest where it started.
            have allowed : c.stalls := by
              refine consuming.resolve_right fun consumes => ?_
              have onward := moved.lt consumes
              simp only [Bool.and_eq_true, beq_iff_eq] at stalled
              omega
            apply (Runs.write fun _ => allowed).bind
            intro _ _
            exact .pure (.refl s)
          · simp only [stalled, if_false, Bool.false_eq_true]
            apply (ih rest).map
            intro collected onward
            exact (moved.trans onward).weaken Bool.noConfusion

theorem many (keeps : c.Parsers moves p) (consuming : c.stalls ∨ moves = true) (limits : Limits) :
    c.Parsers false (p.many limits) := by
  intro label s
  apply (keeps.collect consuming label limits.requireProgress limits.maxRepetitions s).map
  intro collected onward
  exact .success onward

theorem many1 (keeps : c.Parsers moves p) (consuming : c.stalls ∨ moves = true) (limits : Limits) :
    c.Parsers moves (p.many1 limits) := by
  intro label s
  apply (keeps.parse s).bind
  intro outcome rests
  cases rests with
  | failure allowed => exact .pure (.failure (c.relabel label allowed))
  | @success value rest moved =>
      apply (keeps.collect consuming label limits.requireProgress
        (limits.maxRepetitions - 1) rest).map
      intro collected onward
      exact .success ((moved.trans onward).weaken fun consumes => by rw [consumes]; rfl)

theorem delimited (delimiter : c.Parsers further q) (keeps : c.Parsers moves p) :
    c.Parsers moves (.delimited q p) := by
  have items := keeps.keepFirst delimiter.optional
  rw [Bool.or_false] at items
  exact items.labeled p.label

theorem separated (delimiter : c.Parsers further q) (keeps : c.Parsers moves p)
    (consuming : c.stalls ∨ moves = true) (limits : Limits) :
    c.Parsers false (.separated q p limits) :=
  ((delimiter.delimited keeps).many consuming limits).withLabel "SEPARATED"

theorem separated1 (delimiter : c.Parsers further q) (keeps : c.Parsers moves p)
    (consuming : c.stalls ∨ moves = true) (limits : Limits) :
    c.Parsers moves (.separated1 q p limits) :=
  ((delimiter.delimited keeps).many1 consuming limits).withLabel "SEPARATED"

theorem map (keeps : c.Parsers moves p) (f : α → β) : c.Parsers moves (p.map f) :=
  fun _ s => (keeps.parse s).map fun _ rests => rests.map f

theorem tryMap (keeps : c.Parsers moves p) (f : α → Except ε β) (message : ε → String) :
    c.Parsers moves (p.tryMap f message) := by
  intro current s
  apply (keeps.parse s).bind
  intro outcome rests
  cases rests with
  | failure allowed => exact .pure (.failure allowed)
  | @success value rest moved =>
      simp only
      cases f value with
      | ok result => exact .pure (.success moved)
      | error error => exact .pure (.fail current (message error) s)

theorem observed (keeps : c.Parsers moves p) {onSuccess : α → σ → Event}
    {onFailure : Failed σ → Event}
    (other : ∀ outcome : Outcome σ α, (outcome.fold onSuccess onFailure).isStall = false) :
    c.Parsers moves (p.observed onSuccess onFailure) := by
  intro _ s
  apply (keeps.parse s).bind
  intro outcome rests
  apply (Runs.write fun stall => by rw [other outcome] at stall; cases stall).bind
  intro _ _
  exact .pure rests

theorem watched {p : Parser σ ω Value} (keeps : c.Parsers moves p) (tag : String) :
    c.Parsers moves (p.watched tag) := by
  apply keeps.observed
  intro outcome
  cases outcome <;> rfl

theorem traced {p : Parser σ ω Value} (keeps : c.Parsers moves p) : c.Parsers moves p.traced := by
  apply keeps.observed
  intro outcome
  cases outcome <;> rfl

theorem deferred {build : Unit → Logged (Parser σ ω α)}
    (built : c.Built (c.Parsers moves) (build ())) (label : String) (limit : Nat) :
    c.Parsers moves (.deferred label limit build) := by
  intro current s context
  by_cases room : context.depth < limit
  · rw [Parser.deferred_run_open room]
    obtain ⟨rests, quiet⟩ :=
      built.1.parse s { context with depth := context.depth + 1 }
    have inside := quiet_append.mpr ⟨built.2, quiet⟩
    refine ⟨rests, ?_⟩
    refine List.forall_mem_cons.mpr ⟨Bool.noConfusion, ?_⟩
    exact quiet_append.mpr ⟨inside, quiet_singleton Bool.noConfusion⟩
  · rw [Parser.deferred_run_full (Nat.not_lt.mp room)]
    exact ⟨.fail current _ s, quiet_singleton Bool.noConfusion⟩

end Parsers

end Descent.Conduct
