import Descent.Parser.Deferred
import Descent.Parser.Repetition
import Descent.Parser.Transform
import Descent.Proofs.Comparison.Basic

/-!
# Combinators keep comparisons

Parsers composed in the same way from parsers whose runs agree agree again.  A
repetition runs its items in step on both sides; where only the first side guards
progress, the runs in which the guard steps in are set aside.
-/

namespace Descent.Comparison

variable {σ ι κ ω α β γ ε : Type} [Cursor σ ι ω] {c : Comparison σ κ} {floor : Nat}

namespace Parsers

variable {p q : Parser σ ω α} {label other : String}

theorem parse (agree : c.Parsers floor p q) (s : σ) :
    c.Runs floor (c.Agree s) (p.parse s) (q.parse s) :=
  agree.run agree.label s

theorem withLabel (agree : c.Parsers floor p q) (labels : c.Labels label other) :
    c.Parsers floor (p.withLabel label) (q.withLabel other) :=
  ⟨labels, agree.run⟩

/-- Where labels are free, parsers may be renamed on one side only. -/
theorem called (agree : c.Parsers floor p q) {name name' : Option String}
    (names : c.sameLabels → name = name') : c.Parsers floor (p.called name) (q.called name') := by
  have run : ∀ {label other}, c.Labels label other → ∀ s,
      c.Runs floor (c.Agree s) ((p.called name).run label s) ((q.called name').run other s) := by
    intro label other labels s
    cases name <;> cases name' <;> exact agree.run labels s
  refine ⟨?_, run⟩
  intro exactly
  rw [← names exactly]
  cases name with
  | none => exact agree.label exactly
  | some label => rfl

theorem succeed (value : α) (labels : c.Labels label other) :
    c.Parsers floor (.succeed label value) (.succeed other value) := by
  refine ⟨labels, ?_⟩
  intro _ _ _ s
  exact .pure (.success (c.ahead_refl s))

theorem ownLabel (exactly : c.sameLabels) (label : String) (value : String → α) :
    c.Parsers floor (.ownLabel label value) (.ownLabel label value) := by
  refine ⟨fun _ => rfl, ?_⟩
  intro current other labels s
  obtain rfl := labels exactly
  exact .pure (.success (c.ahead_refl s))

theorem here (value : Nat → α) (labels : c.Labels label other) :
    c.Parsers floor (.here label value) (.here other value) := by
  refine ⟨labels, ?_⟩
  intro _ _ _ s
  exact .pure (.success (c.ahead_refl s))

theorem refuse (reason : String) (labels : c.Labels label other) :
    c.Parsers floor (α := α) (.refuse label reason) (.refuse other reason) := by
  refine ⟨labels, ?_⟩
  intro _ _ current s
  exact .pure (.fail current reason)

theorem relabeled (agree : c.Parsers floor p q) (labels : c.Labels label other) :
    c.Parsers floor (p.relabeled label) (q.relabeled other) := by
  refine ⟨agree.label, ?_⟩
  intro _ _ _ s
  apply (agree.parse s).map
  intro _ _ came
  exact came.relabel labels

theorem guarded (agree : c.Parsers floor p q) : c.Parsers floor p.guarded q.guarded := by
  refine ⟨agree.label, ?_⟩
  intro _ _ current s
  apply (Runs.ask (Cursor.atEnd s)).bind
  rintro ended _ ⟨rfl, _⟩
  cases ended with
  | true => exact .pure (.fail current "EOF")
  | false => exact (agree.parse s).map fun _ _ came => came.relabel current

theorem create {first second : σ → Run ω (Outcome σ α)} (labels : c.Labels label other)
    (agree : ∀ s, c.Runs floor (c.Agree s) (first s) (second s)) :
    c.Parsers floor (.create label first) (.create other second) := by
  have bare : c.Parsers floor ⟨label, fun _ s => first s⟩ ⟨other, fun _ s => second s⟩ :=
    ⟨labels, fun _ s => agree s⟩
  exact bare.guarded

theorem labeled (agree : c.Parsers floor p q) (labels : c.Labels label other) :
    c.Parsers floor (.labeled label p) (.labeled other q) :=
  create labels agree.parse

theorem failAfter (agree : c.Parsers floor p q) {inner inner' : String} (reason : String)
    (labels : c.Labels label other) (inners : c.Labels inner inner') :
    c.Parsers floor (α := β) (.failAfter label inner reason p)
      (.failAfter other inner' reason q) := by
  apply create labels
  intro s
  apply (agree.parse s).map
  intro _ _ came
  cases came with
  | success moved => exact .report moved (c.places_refl _) inners reason
  | failure _ moved there => exact .report moved there inners reason

theorem exact [Item ι] (expected : ι) :
    c.Parsers floor (σ := σ) (.exact expected) (.exact expected) := by
  refine guarded ⟨fun _ => rfl, ?_⟩
  intro _ _ current s
  apply (Runs.ask (Cursor.take? s expected)).bind
  rintro taken _ ⟨rfl, state, answered⟩
  cases taken with
  | some taken => exact .pure (.success (c.take_ahead answered))
  | none => exact .pure (.fail current "exact value not found")

theorem nextItem [Item ι] (value : ι → α) (labels : c.Labels label other) :
    c.Parsers floor (σ := σ) (.nextItem label value) (.nextItem other value) := by
  have unlabeled : c.Labels "" "" := fun _ => rfl
  apply create labels
  intro s
  apply (Runs.ask (Cursor.peek? s)).bind
  rintro next _ ⟨rfl, _⟩
  cases next with
  | none => exact .pure (.fail unlabeled "no item")
  | some item =>
      apply (Runs.ask (Cursor.take? s item)).bind
      rintro taken _ ⟨rfl, state, answered⟩
      cases taken with
      | some taken => exact .pure (.success (c.take_ahead answered))
      | none => exact .pure (.fail unlabeled "no item")

section

variable {p' q' : Parser σ ω β}

theorem runBoth (first : c.Parsers floor p q) (second : c.Parsers floor p' q')
    (labels : c.Labels label other) (combine : α → β → γ) (s : σ) :
    c.Runs floor (c.Agree s) (Parser.runBoth label combine p p' s)
      (Parser.runBoth other combine q q' s) := by
  apply (first.parse s).bind
  intro _ _ came
  cases came with
  | failure expected moved there =>
      exact .pure ((Agree.failure expected moved there).relabel labels)
  | success moved =>
      apply (second.parse _).bind
      intro _ _ came
      cases came with
      | @failure reason _ _ _ _ expected further there =>
          have failed : c.Agree (α := γ) s (.failure ⟨reason, _, _⟩) (.failure ⟨reason, _, _⟩) :=
            (Agree.failure expected further there).later moved
          exact .pure (failed.relabel labels)
      | success further => exact .pure (.success (c.ahead_trans moved further))

theorem both (first : c.Parsers floor p q) (second : c.Parsers floor p' q') :
    c.Parsers floor (p.both p') (q.both q') := by
  refine ⟨?_, fun labels s => first.runBoth second labels Prod.mk s⟩
  intro exactly
  simp only [Parser.both, first.label exactly, second.label exactly]

theorem keepFirst (first : c.Parsers floor p q) (second : c.Parsers floor p' q') :
    c.Parsers floor (p.keepFirst p') (q.keepFirst q') :=
  ⟨first.label, fun labels s => first.runBoth second labels _ s⟩

theorem keepSecond (first : c.Parsers floor p q) (second : c.Parsers floor p' q') :
    c.Parsers floor (p.keepSecond p') (q.keepSecond q') :=
  ⟨second.label, fun labels s => first.runBoth second labels _ s⟩

theorem between {inner inner' : Parser σ ω γ} (before : c.Parsers floor p q)
    (after : c.Parsers floor p' q') (middle : c.Parsers floor inner inner') :
    c.Parsers floor (.between p p' inner) (.between q q' inner') :=
  ((before.keepSecond middle).keepFirst after).labeled fun _ => rfl

end

theorem optional (agree : c.Parsers floor p q) : c.Parsers floor p.optional q.optional := by
  refine ⟨fun _ => rfl, ?_⟩
  intro _ _ _ s
  apply (agree.parse s).bind
  intro _ _ came
  cases came with
  | success moved => exact .pure (.success moved)
  | failure _ _ _ => exact .pure (.success (c.ahead_refl s))

theorem attempt (agree : c.Parsers floor p q) : c.Parsers floor p.attempt q.attempt := by
  refine ⟨fun _ => rfl, ?_⟩
  intro _ _ current s
  apply (agree.parse s).map
  intro _ _ came
  exact (came.relabel current).rewind

/-- The second parser may be attempted: what it then reports is moved and labeled anew. -/
theorem attempted (attempts : c.attempts) (agree : c.Parsers floor p q) :
    c.Parsers floor p q.attempt := by
  have free := (c.attempted attempts).1
  refine ⟨fun exactly => absurd exactly free, ?_⟩
  intro label other _ s context above permitted
  have labels : c.Labels label q.label := fun exactly => absurd exactly free
  have start := agree.run labels s context above permitted
  have relabelled : c.Labels "" other := fun exactly => absurd exactly free
  have value := (start.value.relabel relabelled).rewindSecond attempts
  have unmoved : ∀ outcome : Outcome σ α, outcome.relabel "" = outcome := by
    intro outcome
    cases outcome with
    | success => rfl
    | failure failed => exact congrArg Outcome.failure failed.relabel_empty
  rw [unmoved] at value
  exact ⟨value, start.context, start.depth, start.journal⟩

theorem firstSuccess {ps qs : List (Parser σ ω α)}
    (agree : List.Forall₂ (c.Parsers floor) ps qs) (s : σ) :
    c.Runs floor (fun left right => left = right ∧ ∀ found ∈ left, c.ahead s found.2)
      (Parser.firstSuccess ps s) (Parser.firstSuccess qs s) := by
  induction agree with
  | nil => exact .pure ⟨rfl, fun _ member => by cases member⟩
  | cons head _ ih =>
      apply (head.parse s).bind
      intro _ _ came
      cases came with
      | success moved =>
          refine .pure ⟨rfl, ?_⟩
          intro _ member
          cases member
          exact moved
      | failure _ _ _ => exact ih

theorem labels_eq {ps qs : List (Parser σ ω α)} (agree : List.Forall₂ (c.Parsers floor) ps qs)
    (exactly : c.sameLabels) : ps.map Parser.label = qs.map Parser.label := by
  induction agree with
  | nil => rfl
  | cons head _ ih => simp [head.label exactly, ih]

theorem firstOf {ps qs : List (Parser σ ω α)} (agree : List.Forall₂ (c.Parsers floor) ps qs) :
    c.Parsers floor (.firstOf ps) (.firstOf qs) := by
  refine guarded ⟨?_, ?_⟩
  · intro exactly
    simp only [labels_eq agree exactly]
  · intro _ _ current s
    apply (firstSuccess agree s).bind
    rintro found _ ⟨rfl, moved⟩
    cases found with
    | some found => exact .pure (.success (moved found rfl))
    | none => exact .pure (.fail current "no alternative matched")

theorem collect (agree : c.Parsers floor p q) (labels : c.Labels label other)
    {guard guard' : Bool}
    (guards : guard' = guard ∨ guard' = false ∧
      ∀ label item position, ¬c.permits (.warning (.stalled label item position)))
    (cap : Nat) (s : σ) :
    c.Runs floor (fun left right => left = right ∧ c.ahead s left.2)
      (Parser.collect p label guard cap s) (Parser.collect q other guard' cap s) := by
  induction cap generalizing s with
  | zero => exact .pure ⟨rfl, c.ahead_refl s⟩
  | succ cap ih =>
      apply (agree.parse s).bind
      intro _ _ came
      cases came with
      | failure _ _ _ => exact .pure ⟨rfl, c.ahead_refl s⟩
      | @success value rest moved =>
          have onward : c.Runs floor (fun left right => left = right ∧ c.ahead s left.2)
              ((fun later => (value :: later.1, later.2)) <$> Parser.collect p label guard cap rest)
              ((fun later => (value :: later.1, later.2)) <$>
                Parser.collect q other guard' cap rest) := by
            apply (ih rest).map
            rintro ⟨values, last⟩ _ ⟨rfl, further⟩
            exact ⟨rfl, c.ahead_trans moved further⟩
          have ended : c.Runs floor (fun left right => left = right ∧ c.ahead s left.2)
              (Pure.pure (([] : List α), s)) (Pure.pure ([], s)) := .pure ⟨rfl, c.ahead_refl s⟩
          by_cases stalled : (guard && Cursor.position rest == Cursor.position s) = true
          -- If only the first side is guarded, its warning sets the run aside.
          · simp only [stalled, if_true]
            rcases guards with same | ⟨_, forbidden⟩
            · simp only [same, stalled, if_true]
              apply Runs.bind (.write (.stalled _ labels agree.label))
              intro _ _ _
              exact ended
            · exact .write_forbidden (forbidden _ _ _)
          · have stalled' : ¬(guard' && Cursor.position rest == Cursor.position s) = true := by
              rcases guards with same | ⟨unguarded, _⟩
              · rwa [same]
              · simp [unguarded]
            simp only [stalled, stalled', if_false, Bool.false_eq_true]
            exact onward

theorem many (agree : c.Parsers floor p q) {limits limits' : Limits}
    (repetitions : c.repetitions limits limits') :
    c.Parsers floor (p.many limits) (q.many limits') := by
  refine ⟨fun _ => rfl, ?_⟩
  intro _ _ current s
  have items := agree.collect current (c.progress repetitions) limits.maxRepetitions s
  rw [← c.cap repetitions] at items
  simp only [Parser.many, ← c.cap repetitions]
  apply items.map
  rintro ⟨values, last⟩ _ ⟨rfl, moved⟩
  exact .success moved

theorem many1 (agree : c.Parsers floor p q) {limits limits' : Limits}
    (repetitions : c.repetitions limits limits') :
    c.Parsers floor (p.many1 limits) (q.many1 limits') := by
  refine ⟨fun _ => rfl, ?_⟩
  intro _ _ current s
  apply (agree.parse s).bind
  intro _ _ came
  cases came with
  | failure expected moved there =>
      exact .pure ((Agree.failure expected moved there).relabel current)
  | @success value rest moved =>
      have items := agree.collect current (c.progress repetitions) (limits.maxRepetitions - 1) rest
      simp only [c.cap repetitions]
      apply items.map
      rintro ⟨values, last⟩ _ ⟨rfl, further⟩
      exact .success (c.ahead_trans moved further)

section

variable {d e : Parser σ ω β} {limits limits' : Limits}

theorem delimited (delimiter : c.Parsers floor d e) (agree : c.Parsers floor p q) :
    c.Parsers floor (.delimited d p) (.delimited e q) :=
  (agree.keepFirst delimiter.optional).labeled agree.label

theorem separated (delimiter : c.Parsers floor d e) (agree : c.Parsers floor p q)
    (repetitions : c.repetitions limits limits') :
    c.Parsers floor (.separated d p limits) (.separated e q limits') :=
  ((delimiter.delimited agree).many repetitions).withLabel fun _ => rfl

theorem separated1 (delimiter : c.Parsers floor d e) (agree : c.Parsers floor p q)
    (repetitions : c.repetitions limits limits') :
    c.Parsers floor (.separated1 d p limits) (.separated1 e q limits') :=
  ((delimiter.delimited agree).many1 repetitions).withLabel fun _ => rfl

end

theorem map (agree : c.Parsers floor p q) (f : α → β) :
    c.Parsers floor (p.map f) (q.map f) := by
  refine ⟨agree.label, ?_⟩
  intro _ _ _ s
  apply (agree.parse s).map
  intro _ _ came
  exact came.map f

theorem tryMap (agree : c.Parsers floor p q) (f : α → Except ε β) (message : ε → String) :
    c.Parsers floor (p.tryMap f message) (q.tryMap f message) := by
  refine ⟨agree.label, ?_⟩
  intro _ _ current s
  apply (agree.parse s).bind
  intro _ _ came
  cases came with
  | failure expected moved there => exact .pure (.failure expected moved there)
  | @success value _ moved =>
      simp only
      cases f value with
      | ok result => exact .pure (.success moved)
      | error error => exact .pure (.fail current (message error))

theorem observed (agree : c.Parsers floor p q) {onSuccess onSuccess' : α → σ → Event}
    {onFailure onFailure' : Failed σ → Event}
    (entries : ∀ {s first second}, c.Agree s first second →
      Event.Alike c.sameLabels c.opens c.positions (first.fold onSuccess onFailure)
        (second.fold onSuccess' onFailure')) :
    c.Parsers floor (p.observed onSuccess onFailure) (q.observed onSuccess' onFailure') := by
  refine ⟨agree.label, ?_⟩
  intro _ _ _ s
  apply (agree.parse s).bind
  intro _ _ came
  apply Runs.bind (.write (entries came))
  intro _ _ _
  exact .pure came

theorem watched {p q : Parser σ ω Value} (agree : c.Parsers floor p q) (tag : String) :
    c.Parsers floor (p.watched tag) (q.watched tag) := by
  apply agree.observed
  intro s _ _ came
  cases came with
  | success _ => exact .hit tag _ _
  | failure expected _ there =>
      refine .miss tag ?_ (c.positions_of_places there)
      intro exactly
      rw [expected exactly]
      rfl

theorem traced {p q : Parser σ ω Value} (agree : c.Parsers floor p q) :
    c.Parsers floor p.traced q.traced := by
  apply agree.observed
  intro s _ _ came
  cases came with
  | success _ => exact .matched _ _ agree.label
  | failure expected _ there =>
      refine .missed agree.label ?_ (c.positions_of_places there)
      intro exactly
      rw [expected exactly]
      rfl

theorem deferred {build build' : Unit → Logged (Parser σ ω α)} {limits limits' : Limits}
    (deferrals : c.deferrals limits limits') (labels : c.Labels label other)
    (values : floor < limits.maxRecursionDepth →
      c.Parsers (floor + 1) (build ()).value (build' ()).value)
    (journals : floor < limits.maxRecursionDepth →
      c.Entries (build ()).journal (build' ()).journal) :
    c.Parsers floor (.deferred label limits.maxRecursionDepth build)
      (.deferred other limits'.maxRecursionDepth build') := by
  refine ⟨labels, ?_⟩
  intro _ _ current s context above permitted
  -- What the first side builds shows only below its own limit; where it is refused, either
  -- the second side is too, or the warning sets the run aside.
  by_cases room : context.depth < limits.maxRecursionDepth
  · have room' : context.depth < limits'.maxRecursionDepth := by
      rcases c.depth deferrals with same | ⟨wider, _⟩ <;> omega
    rw [Parser.deferred_run_open room] at permitted ⊢
    rw [Parser.deferred_run_open room']
    have inside : c.Permitted
        ((build ()).value.parse s { context with depth := context.depth + 1 }).journal := by
      intro event member
      exact permitted event (by simp [member])
    have inner := (values (by omega)).parse s { context with depth := context.depth + 1 }
      (by simpa using above) inside
    have notes := journals (by omega)
    refine ⟨inner.value, ?_, ?_, ?_⟩
    · simp only [inner.context]
    · simp [inner.depth]
    · refine .cons (.entered current (c.room deferrals _ room)) ?_
      exact List.rel_append (List.rel_append notes inner.journal) (.cons (.exited current) .nil)
  · have full : limits.maxRecursionDepth ≤ context.depth := by omega
    rw [Parser.deferred_run_full full] at permitted ⊢
    rcases c.depth deferrals with same | ⟨_, forbidden⟩
    · rw [Parser.deferred_run_full (same ▸ full), same]
      exact ⟨.fail current _, rfl, rfl, .cons (.tooDeep _ _ _ current) .nil⟩
    · exact absurd (permitted _ (List.mem_cons_self ..)) (forbidden _ _ _ _)

end Parsers

end Descent.Comparison
