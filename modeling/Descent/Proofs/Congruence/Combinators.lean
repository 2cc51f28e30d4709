import Mathlib.Data.List.Forall2
import Descent.Parser.Deferred
import Descent.Parser.Repetition
import Descent.Parser.Transform
import Descent.Proofs.Correspondence.Grammar

/-!
# Congruences of runs

Parsers touch their input by questions to cursors alone, and put runs together in one way
alone.  A relation between runs that holds of every question, of every entry that guards
write and of whatever is put together from related runs is therefore kept by all
combinators.  They look at a parser only as it parses under its own label.
-/

namespace Descent

variable {σ ι ω α β γ ε : Type}

/-- Whether an entry is written by an observer. -/
def Event.isObservation : Event → Bool
  | .hit _ _ _ | .miss _ _ _ | .trace _ => true
  | _ => false

/-- A relation between runs that is kept when runs are put together. -/
structure Congruence (σ : Type) {ι ω : Type} [Cursor σ ι ω] where
  Runs : ∀ {α : Type}, Run ω α → Run ω α → Prop
  pure : ∀ {α : Type} (value : α), Runs (Pure.pure value) (Pure.pure value)
  bind : ∀ {α β : Type} {first second : Run ω α} {later last : α → Run ω β},
    Runs first second → (∀ value, Runs (later value) (last value)) →
      Runs (first >>= later) (second >>= last)
  atEnd : ∀ s : σ, Runs (Run.ask (Cursor.atEnd s)) (Run.ask (Cursor.atEnd s))
  peek : ∀ s : σ, Runs (Run.ask (Cursor.peek? s)) (Run.ask (Cursor.peek? s))
  take : ∀ (s : σ) (item : ι),
    Runs (Run.ask (Cursor.take? s item)) (Run.ask (Cursor.take? s item))
  write : ∀ event : Event, event.isObservation = false → Runs (Run.write event) (Run.write event)
  depth : Runs Run.depth Run.depth
  enter : ∀ label, Runs (Run.enter label) (Run.enter label)
  exit : ∀ label, Runs (Run.exit label) (Run.exit label)

namespace Congruence

variable [Cursor σ ι ω] {c : Congruence σ}

theorem map {first second : Run ω α} (before : c.Runs first second) (f : α → β) :
    c.Runs (f <$> first) (f <$> second) := by
  rw [← bind_pure_comp, ← bind_pure_comp]
  exact c.bind before fun value => c.pure (f value)

theorem notes {journal : Journal} (composed : ∀ event ∈ journal, ∃ text, event = .composed text) :
    c.Runs (Run.adopt ⟨(), journal⟩) (Run.adopt ⟨(), journal⟩) := by
  induction journal with
  | nil => exact c.pure ()
  | cons event rest ih =>
      obtain ⟨text, rfl⟩ := composed event (List.mem_cons_self ..)
      have written : c.Runs (Run.write (.composed text)) (Run.write (.composed text)) :=
        c.write _ rfl
      have tail := ih fun event member => composed event (List.mem_cons_of_mem _ member)
      exact c.bind written fun _ => tail

/-- What is made on both sides may differ, as long as what is then done with it is related. -/
theorem adopt {related : α → β → Prop} {first : Logged α} {second : Logged β}
    {later : α → Run ω γ} {last : β → Run ω γ} (made : Logged.Alike related first second)
    (after : ∀ left right, related left right → c.Runs (later left) (last right)) :
    c.Runs (Run.adopt first >>= later) (Run.adopt second >>= last) := by
  have noted := c.bind (c.notes made.composed) fun _ => after _ _ made.value
  have unfolded : (Run.adopt ⟨(), first.journal⟩ >>= fun _ => last second.value) =
      Run.adopt second >>= last := by
    rw [made.journal]
    rfl
  rwa [unfolded] at noted

/-- Two parsers with one label that are related under it. -/
structure Parses (c : Congruence σ) (p q : Parser σ ω α) : Prop where
  label : p.label = q.label
  parse : ∀ s, c.Runs (p.parse s) (q.parse s)

/-- Two parsers with one label that are related under any label. -/
structure Parsers (c : Congruence σ) (p q : Parser σ ω α) : Prop where
  label : p.label = q.label
  run : ∀ label s, c.Runs (p.run label s) (q.run label s)

namespace Parsers

variable {p q : Parser σ ω α}

theorem parses (alike : c.Parsers p q) : c.Parses p q := by
  refine ⟨alike.label, ?_⟩
  intro s
  unfold Parser.parse
  rw [← alike.label]
  exact alike.run p.label s

theorem withLabel (alike : c.Parsers p q) (label : String) :
    c.Parsers (p.withLabel label) (q.withLabel label) :=
  ⟨rfl, alike.run⟩

theorem called (alike : c.Parsers p q) (name : Option String) :
    c.Parsers (p.called name) (q.called name) := by
  cases name with
  | none => exact alike
  | some label => exact alike.withLabel label

theorem succeed (label : String) (value : α) :
    c.Parsers (.succeed label value) (.succeed label value) :=
  ⟨rfl, fun _ _ => c.pure _⟩

theorem ownLabel (label : String) (value : String → α) :
    c.Parsers (.ownLabel label value) (.ownLabel label value) :=
  ⟨rfl, fun _ _ => c.pure _⟩

theorem here (label : String) (value : Nat → α) :
    c.Parsers (.here label value) (.here label value) :=
  ⟨rfl, fun _ _ => c.pure _⟩

theorem refuse (label reason : String) :
    c.Parsers (α := α) (.refuse label reason) (.refuse label reason) :=
  ⟨rfl, fun _ _ => c.pure _⟩

end Parsers

theorem Parses.guarded {p q : Parser σ ω α} (alike : c.Parses p q) :
    c.Parsers p.guarded q.guarded := by
  refine ⟨alike.label, ?_⟩
  intro label s
  apply c.bind (c.atEnd s)
  intro ended
  cases ended with
  | true => exact c.pure _
  | false => exact c.map (alike.parse s) _

namespace Parsers

theorem create {first second : σ → Run ω (Outcome σ α)} (label : String)
    (alike : ∀ s, c.Runs (first s) (second s)) :
    c.Parsers (.create label first) (.create label second) :=
  Parses.guarded ⟨rfl, alike⟩

theorem exact [Item ι] (expected : ι) : c.Parsers (σ := σ) (.exact expected) (.exact expected) := by
  refine Parses.guarded ⟨rfl, ?_⟩
  intro s
  apply c.bind (c.take s expected)
  intro taken
  cases taken with
  | some taken => exact c.pure _
  | none => exact c.pure _

theorem nextItem (label : String) (value : ι → α) :
    c.Parsers (σ := σ) (.nextItem label value) (.nextItem label value) := by
  apply create
  intro s
  apply c.bind (c.peek s)
  intro next
  cases next with
  | none => exact c.pure _
  | some item =>
      apply c.bind (c.take s item)
      intro taken
      cases taken with
      | some taken => exact c.pure _
      | none => exact c.pure _

end Parsers

namespace Parses

variable {p q : Parser σ ω α}

theorem relabeled (alike : c.Parses p q) (label : String) :
    c.Parsers (p.relabeled label) (q.relabeled label) :=
  ⟨alike.label, fun _ s => c.map (alike.parse s) _⟩

theorem labeled (alike : c.Parses p q) (label : String) :
    c.Parsers (.labeled label p) (.labeled label q) :=
  .create label alike.parse

theorem failAfter (alike : c.Parses p q) (label inner reason : String) :
    c.Parsers (α := β) (.failAfter label inner reason p) (.failAfter label inner reason q) :=
  .create label fun s => c.map (alike.parse s) _

section

variable {p' q' : Parser σ ω β}

theorem runBoth (first : c.Parses p q) (second : c.Parses p' q') (label : String)
    (combine : α → β → γ) (s : σ) :
    c.Runs (Parser.runBoth label combine p p' s) (Parser.runBoth label combine q q' s) := by
  apply c.bind (first.parse s)
  intro came
  cases came with
  | failure failed => exact c.pure _
  | success value rest =>
      apply c.bind (second.parse rest)
      intro came
      cases came with
      | failure failed => exact c.pure _
      | success other last => exact c.pure _

theorem both (first : c.Parses p q) (second : c.Parses p' q') :
    c.Parsers (p.both p') (q.both q') := by
  refine ⟨?_, fun label s => first.runBoth second label Prod.mk s⟩
  simp only [Parser.both, first.label, second.label]

theorem keepFirst (first : c.Parses p q) (second : c.Parses p' q') :
    c.Parsers (p.keepFirst p') (q.keepFirst q') :=
  ⟨first.label, fun label s => first.runBoth second label _ s⟩

theorem keepSecond (first : c.Parses p q) (second : c.Parses p' q') :
    c.Parsers (p.keepSecond p') (q.keepSecond q') :=
  ⟨second.label, fun label s => first.runBoth second label _ s⟩

theorem between {inner inner' : Parser σ ω γ} (before : c.Parses p q) (after : c.Parses p' q')
    (middle : c.Parses inner inner') :
    c.Parsers (.between p p' inner) (.between q q' inner') :=
  ((before.keepSecond middle).parses.keepFirst after).parses.labeled "BETWEEN"

end

theorem optional (alike : c.Parses p q) : c.Parsers p.optional q.optional := by
  refine ⟨rfl, ?_⟩
  intro _ s
  apply c.bind (alike.parse s)
  intro came
  cases came with
  | success value rest => exact c.pure _
  | failure failed => exact c.pure _

theorem attempt (alike : c.Parses p q) : c.Parsers p.attempt q.attempt :=
  ⟨rfl, fun _ s => c.map (alike.parse s) _⟩

theorem firstSuccess {ps qs : List (Parser σ ω α)} (alike : List.Forall₂ c.Parses ps qs) (s : σ) :
    c.Runs (Parser.firstSuccess ps s) (Parser.firstSuccess qs s) := by
  induction alike with
  | nil => exact c.pure none
  | cons head _ ih =>
      apply c.bind (head.parse s)
      intro came
      cases came with
      | success value rest => exact c.pure _
      | failure failed => exact ih

theorem labels_eq {ps qs : List (Parser σ ω α)} (alike : List.Forall₂ c.Parses ps qs) :
    ps.map Parser.label = qs.map Parser.label := by
  induction alike with
  | nil => rfl
  | cons head _ ih => simp [head.label, ih]

theorem firstOf {ps qs : List (Parser σ ω α)} (alike : List.Forall₂ c.Parses ps qs) :
    c.Parsers (.firstOf ps) (.firstOf qs) := by
  refine guarded ⟨congrArg Parser.choiceLabel (labels_eq alike), ?_⟩
  intro s
  simp only [Parser.parse, labels_eq alike]
  apply c.bind (firstSuccess alike s)
  intro found
  cases found with
  | some found => exact c.pure _
  | none => exact c.pure _

theorem collect (alike : c.Parses p q) (label : String) (requireProgress : Bool) (cap : Nat)
    (s : σ) :
    c.Runs (Parser.collect p label requireProgress cap s)
      (Parser.collect q label requireProgress cap s) := by
  induction cap generalizing s with
  | zero => exact c.pure _
  | succ cap ih =>
      apply c.bind (alike.parse s)
      intro came
      cases came with
      | failure failed => exact c.pure _
      | success value rest =>
          simp only [alike.label]
          split
          · exact c.bind (c.write _ rfl) fun _ => c.pure _
          · exact c.map (ih rest) _

theorem many (alike : c.Parses p q) (limits : Limits) :
    c.Parsers (p.many limits) (q.many limits) :=
  ⟨rfl, fun label s => c.map (alike.collect label _ _ s) _⟩

theorem many1 (alike : c.Parses p q) (limits : Limits) :
    c.Parsers (p.many1 limits) (q.many1 limits) := by
  refine ⟨rfl, ?_⟩
  intro label s
  apply c.bind (alike.parse s)
  intro came
  cases came with
  | failure failed => exact c.pure _
  | success value rest => exact c.map (alike.collect label _ _ rest) _

section

variable {d e : Parser σ ω β}

theorem delimited (delimiter : c.Parses d e) (alike : c.Parses p q) :
    c.Parsers (.delimited d p) (.delimited e q) := by
  unfold Parser.delimited
  rw [alike.label]
  exact (alike.keepFirst delimiter.optional.parses).parses.labeled q.label

theorem separated (delimiter : c.Parses d e) (alike : c.Parses p q) (limits : Limits) :
    c.Parsers (.separated d p limits) (.separated e q limits) :=
  ((delimiter.delimited alike).parses.many limits).withLabel "SEPARATED"

theorem separated1 (delimiter : c.Parses d e) (alike : c.Parses p q) (limits : Limits) :
    c.Parsers (.separated1 d p limits) (.separated1 e q limits) :=
  ((delimiter.delimited alike).parses.many1 limits).withLabel "SEPARATED"

end

theorem map (alike : c.Parses p q) (f : α → β) : c.Parsers (p.map f) (q.map f) :=
  ⟨alike.label, fun _ s => Congruence.map (alike.parse s) _⟩

theorem tryMap (alike : c.Parses p q) (f : α → Except ε β) (message : ε → String) :
    c.Parsers (p.tryMap f message) (q.tryMap f message) := by
  refine ⟨alike.label, ?_⟩
  intro label s
  apply c.bind (alike.parse s)
  intro came
  cases came with
  | failure failed => exact c.pure _
  | success value rest =>
      simp only
      cases f value with
      | ok result => exact c.pure _
      | error error => exact c.pure _

theorem observed (alike : c.Parses p q) {onSuccess : α → σ → Event} {onFailure : Failed σ → Event}
    (writes : ∀ outcome : Outcome σ α,
      c.Runs (Run.write (outcome.fold onSuccess onFailure))
        (Run.write (outcome.fold onSuccess onFailure))) :
    c.Parsers (p.observed onSuccess onFailure) (q.observed onSuccess onFailure) := by
  refine ⟨alike.label, ?_⟩
  intro _ s
  apply c.bind (alike.parse s)
  intro outcome
  exact c.bind (writes outcome) fun _ => c.pure outcome

/-- Where observations do not count, an observer is as good as what it observes. -/
theorem observed_left (alike : c.Parses p q) {onSuccess : α → σ → Event}
    {onFailure : Failed σ → Event}
    (erases : ∀ outcome : Outcome σ α,
      c.Runs (Run.write (outcome.fold onSuccess onFailure)) (Pure.pure ())) :
    c.Parses (p.observed onSuccess onFailure) q := by
  refine ⟨alike.label, ?_⟩
  intro s
  have observed := c.bind (alike.parse s) fun outcome =>
    c.bind (erases outcome) fun _ => c.pure outcome
  simp only [pure_bind, bind_pure] at observed
  exact observed

end Parses

theorem Parsers.deferred {build build' : Unit → Logged (Parser σ ω α)} (label : String)
    (limit : Nat) (made : Logged.Alike c.Parses (build ()) (build' ())) :
    c.Parsers (.deferred label limit build) (.deferred label limit build') := by
  refine ⟨rfl, ?_⟩
  intro label s
  apply c.bind c.depth
  intro depth
  split
  · exact c.bind (c.write _ rfl) fun _ => c.pure _
  · apply c.bind (c.enter label)
    intro _
    apply c.adopt made
    intro p q alike
    apply c.bind (alike.parse s)
    intro outcome
    exact c.bind (c.exit label) fun _ => c.pure outcome

end Congruence

end Descent
