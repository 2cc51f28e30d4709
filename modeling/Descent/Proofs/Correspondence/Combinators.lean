import Mathlib.Data.List.Forall2
import Descent.Parser.Deferred
import Descent.Parser.Repetition
import Descent.Parser.Transform
import Descent.Proofs.Correspondence.Basic

/-!
# Combinators keep correspondences

Parsers over two kinds of cursors that are composed in the same way from
corresponding parsers correspond.  There is one lemma for each combinator; a
repetition is followed through its iterations, and the number of open deferred
parsers grows by one inside a deferred parser.
-/

namespace Descent.Correspondence

variable {σ τ ι ω υ α β γ ε : Type} [Cursor σ ι ω] [Cursor τ ι υ]
  {c : Correspondence σ τ} {floor : Nat}

namespace Parsers

variable {p : Parser σ ω α} {q : Parser τ υ α}

theorem parse (alike : c.Parsers floor p q) {s : σ} {t : τ} (there : c.cursors s t) :
    c.Runs floor c.Outcomes (p.parse s) (q.parse t) := by
  unfold Parser.parse
  rw [← alike.label]
  exact alike.run p.label there

theorem withLabel (alike : c.Parsers floor p q) (label : String) :
    c.Parsers floor (p.withLabel label) (q.withLabel label) :=
  ⟨rfl, alike.run⟩

theorem called (alike : c.Parsers floor p q) (name : Option String) :
    c.Parsers floor (p.called name) (q.called name) := by
  cases name with
  | none => exact alike
  | some label => exact alike.withLabel label

theorem succeed (label : String) (value : α) :
    c.Parsers floor (.succeed label value) (.succeed label value) := by
  refine ⟨rfl, ?_⟩
  intro _ _ _ there
  exact .pure (.success there)

theorem ownLabel (label : String) (value : String → α) :
    c.Parsers floor (.ownLabel label value) (.ownLabel label value) := by
  refine ⟨rfl, ?_⟩
  intro _ _ _ there
  exact .pure (.success there)

theorem refuse (label reason : String) :
    c.Parsers floor (α := α) (.refuse label reason) (.refuse label reason) := by
  refine ⟨rfl, ?_⟩
  intro current _ _ there
  exact .pure (.fail there current reason)

theorem here (told : c.tellsPositions) (label : String) (value : Nat → α) :
    c.Parsers floor (.here label value) (.here label value) := by
  refine ⟨rfl, ?_⟩
  intro _ s t there
  have same := c.samePositions told there
  simp only [Parser.here, same]
  exact .pure (.success there)

theorem relabeled (alike : c.Parsers floor p q) (label : String) :
    c.Parsers floor (p.relabeled label) (q.relabeled label) := by
  refine ⟨alike.label, ?_⟩
  intro _ _ _ there
  apply (alike.parse there).map
  intro _ _ came
  exact came.relabel label

theorem guarded (alike : c.Parsers floor p q) : c.Parsers floor p.guarded q.guarded := by
  refine ⟨alike.label, ?_⟩
  intro label s t there
  apply Runs.bind (.ask (c.atEnd there))
  intro ended other same
  subst same
  cases ended with
  | true => exact .pure (.fail there label "EOF")
  | false => exact (alike.parse there).map fun _ _ came => came.relabel label

theorem create {first : σ → Run ω (Outcome σ α)} {second : τ → Run υ (Outcome τ α)}
    (label : String)
    (alike : ∀ {s t}, c.cursors s t → c.Runs floor c.Outcomes (first s) (second t)) :
    c.Parsers floor (.create label first) (.create label second) := by
  have bare : c.Parsers floor ⟨label, fun _ s => first s⟩ ⟨label, fun _ t => second t⟩ :=
    ⟨rfl, fun _ _ _ there => alike there⟩
  exact bare.guarded

theorem labeled (alike : c.Parsers floor p q) (label : String) :
    c.Parsers floor (.labeled label p) (.labeled label q) :=
  create label alike.parse

theorem failAfter (alike : c.Parsers floor p q) (label inner reason : String) :
    c.Parsers floor (α := β) (.failAfter label inner reason p)
      (.failAfter label inner reason q) := by
  apply create label
  intro _ _ there
  apply (alike.parse there).map
  intro _ _ came
  exact .fail came.remaining inner reason

theorem exact [Item ι] {expected : ι} (expectable : c.expects expected) :
    c.Parsers floor (σ := σ) (τ := τ) (.exact expected) (.exact expected) := by
  refine guarded ⟨rfl, ?_⟩
  intro label s t there
  apply Runs.bind (.ask (c.take expectable there))
  intro taken other same
  cases same with
  | some placed =>
      cases placed with
      | same rest => exact .pure (.success rest)
  | none => exact .pure (.fail there label "exact value not found")

theorem nextItem (label : String) (value : ι → α) :
    c.Parsers floor (σ := σ) (τ := τ) (.nextItem label value) (.nextItem label value) := by
  apply create label
  intro s t there
  apply Runs.bind (.ask (c.peek there))
  intro next other same
  obtain ⟨same, expectable⟩ := same
  subst same
  cases next with
  | none => exact .pure (.fail there "" "no item")
  | some item =>
      apply Runs.bind (.ask (c.take (expectable item rfl) there))
      intro taken other same
      cases same with
      | some placed =>
          cases placed with
          | same rest => exact .pure (.success rest)
      | none => exact .pure (.fail there "" "no item")

section

variable {p' : Parser σ ω β} {q' : Parser τ υ β}

theorem runBoth (first : c.Parsers floor p q) (second : c.Parsers floor p' q')
    (label : String) (combine : α → β → γ) {s : σ} {t : τ} (there : c.cursors s t) :
    c.Runs floor c.Outcomes (Parser.runBoth label combine p p' s)
      (Parser.runBoth label combine q q' t) := by
  apply Runs.bind (first.parse there)
  intro _ _ came
  cases came with
  | failure stuck => exact .pure ((Outcome.Alike.failure stuck).relabel label)
  | success rest =>
      apply Runs.bind (second.parse rest)
      intro _ _ came
      cases came with
      | failure stuck => exact .pure ((Outcome.Alike.failure stuck).relabel label)
      | success last => exact .pure (.success last)

theorem both (first : c.Parsers floor p q) (second : c.Parsers floor p' q') :
    c.Parsers floor (p.both p') (q.both q') := by
  refine ⟨?_, fun label _ _ there => first.runBoth second label Prod.mk there⟩
  simp only [Parser.both, first.label, second.label]

theorem keepFirst (first : c.Parsers floor p q) (second : c.Parsers floor p' q') :
    c.Parsers floor (p.keepFirst p') (q.keepFirst q') :=
  ⟨first.label, fun label _ _ there => first.runBoth second label _ there⟩

theorem keepSecond (first : c.Parsers floor p q) (second : c.Parsers floor p' q') :
    c.Parsers floor (p.keepSecond p') (q.keepSecond q') :=
  ⟨second.label, fun label _ _ there => first.runBoth second label _ there⟩

theorem between {inner : Parser σ ω γ} {inner' : Parser τ υ γ}
    (before : c.Parsers floor p q) (after : c.Parsers floor p' q')
    (middle : c.Parsers floor inner inner') :
    c.Parsers floor (.between p p' inner) (.between q q' inner') :=
  ((before.keepSecond middle).keepFirst after).labeled "BETWEEN"

end

theorem optional (alike : c.Parsers floor p q) : c.Parsers floor p.optional q.optional := by
  refine ⟨rfl, ?_⟩
  intro _ s t there
  apply Runs.bind (alike.parse there)
  intro _ _ came
  cases came with
  | success rest => exact .pure (.success rest)
  | failure _ => exact .pure (.success there)

theorem attempt (alike : c.Parsers floor p q) : c.Parsers floor p.attempt q.attempt := by
  refine ⟨rfl, ?_⟩
  intro label _ _ there
  apply (alike.parse there).map
  intro _ _ came
  exact (came.relabel label).rewind there

theorem firstSuccess {ps : List (Parser σ ω α)} {qs : List (Parser τ υ α)}
    (alike : List.Forall₂ (c.Parsers floor) ps qs) {s : σ} {t : τ} (there : c.cursors s t) :
    c.Runs floor (Option.Rel (Placed c.cursors)) (Parser.firstSuccess ps s)
      (Parser.firstSuccess qs t) := by
  induction alike with
  | nil => exact .pure .none
  | cons head _ ih =>
      apply Runs.bind (head.parse there)
      intro _ _ came
      cases came with
      | success rest => exact .pure (.some (.same rest))
      | failure _ => exact ih

theorem labels_eq {ps : List (Parser σ ω α)} {qs : List (Parser τ υ α)}
    (alike : List.Forall₂ (c.Parsers floor) ps qs) :
    ps.map Parser.label = qs.map Parser.label := by
  induction alike with
  | nil => rfl
  | cons head _ ih => simp [head.label, ih]

theorem firstOf {ps : List (Parser σ ω α)} {qs : List (Parser τ υ α)}
    (alike : List.Forall₂ (c.Parsers floor) ps qs) :
    c.Parsers floor (.firstOf ps) (.firstOf qs) := by
  refine guarded ⟨?_, ?_⟩
  · simp only [labels_eq alike]
  · intro label s t there
    apply Runs.bind (firstSuccess alike there)
    intro _ _ found
    cases found with
    | some placed =>
        cases placed with
        | same rest => exact .pure (.success rest)
    | none => exact .pure (.fail there label "no alternative matched")

/-- Both sides run their items in step: they stop at the same iteration, for the
same reason. -/
theorem collect (alike : c.Parsers floor p q) (label : String) (requireProgress : Bool)
    (cap : Nat) {s : σ} {t : τ} (there : c.cursors s t) :
    c.Runs floor (Placed c.cursors) (Parser.collect p label requireProgress cap s)
      (Parser.collect q label requireProgress cap t) := by
  induction cap generalizing s t with
  | zero => exact .pure (.same there)
  | succ cap ih =>
      apply Runs.bind (alike.parse there)
      intro _ _ came
      cases came with
      | failure _ => exact .pure (.same there)
      | @success value rest other moved =>
          have agreed :
              (requireProgress && Cursor.position rest == Cursor.position s) =
                (requireProgress && Cursor.position other == Cursor.position t) := by
            rw [Bool.eq_iff_iff]
            simp [c.progress there moved]
          simp only [agreed]
          split
          · have warned : ∀ depth, c.journals.relates depth
                [.warning (.stalled label p.label (Cursor.position s))]
                [.warning (.stalled label q.label (Cursor.position t))] := by
              intro depth
              rw [alike.label]
              exact c.journals.entry (fun n => .warning (.stalled label q.label n))
                (fun _ => rfl) (c.entryPositions there)
            apply Runs.bind (.write warned)
            intro _ _ _
            exact .pure (.same there)
          · apply (ih moved).map
            intro _ _ collected
            cases collected with
            | same last => exact .same last

theorem many (alike : c.Parsers floor p q) (limits : Limits) :
    c.Parsers floor (p.many limits) (q.many limits) := by
  refine ⟨rfl, ?_⟩
  intro label s t there
  have items := alike.collect label limits.requireProgress limits.maxRepetitions there
  apply items.map
  intro _ _ collected
  cases collected with
  | same last => exact .success last

theorem many1 (alike : c.Parsers floor p q) (limits : Limits) :
    c.Parsers floor (p.many1 limits) (q.many1 limits) := by
  refine ⟨rfl, ?_⟩
  intro label s t there
  apply Runs.bind (alike.parse there)
  intro _ _ came
  cases came with
  | failure stuck => exact .pure ((Outcome.Alike.failure stuck).relabel label)
  | success rest =>
      have items := alike.collect label limits.requireProgress (limits.maxRepetitions - 1) rest
      apply items.map
      intro _ _ collected
      cases collected with
      | same last => exact .success last

section

variable {d : Parser σ ω β} {e : Parser τ υ β}

theorem delimited (delimiter : c.Parsers floor d e) (alike : c.Parsers floor p q) :
    c.Parsers floor (.delimited d p) (.delimited e q) := by
  unfold Parser.delimited
  rw [alike.label]
  exact (alike.keepFirst delimiter.optional).labeled q.label

theorem separated (delimiter : c.Parsers floor d e) (alike : c.Parsers floor p q)
    (limits : Limits) : c.Parsers floor (.separated d p limits) (.separated e q limits) :=
  ((delimiter.delimited alike).many limits).withLabel "SEPARATED"

theorem separated1 (delimiter : c.Parsers floor d e) (alike : c.Parsers floor p q)
    (limits : Limits) : c.Parsers floor (.separated1 d p limits) (.separated1 e q limits) :=
  ((delimiter.delimited alike).many1 limits).withLabel "SEPARATED"

end

theorem map (alike : c.Parsers floor p q) (f : α → β) :
    c.Parsers floor (p.map f) (q.map f) := by
  refine ⟨alike.label, ?_⟩
  intro _ _ _ there
  apply (alike.parse there).map
  intro _ _ came
  exact came.map f

theorem tryMap (alike : c.Parsers floor p q) (f : α → Except ε β) (message : ε → String) :
    c.Parsers floor (p.tryMap f message) (q.tryMap f message) := by
  refine ⟨alike.label, ?_⟩
  intro label s t there
  apply Runs.bind (alike.parse there)
  intro _ _ came
  cases came with
  | failure stuck => exact .pure (.failure stuck)
  | @success value _ _ rest =>
      simp only
      cases f value with
      | ok result => exact .pure (.success rest)
      | error error => exact .pure (.fail there label (message error))

theorem observed (alike : c.Parsers floor p q) {onSuccess : α → σ → Event}
    {onSuccess' : α → τ → Event} {onFailure : Failed σ → Event} {onFailure' : Failed τ → Event}
    (entries : ∀ depth {first second}, c.Outcomes first second →
      c.journals.relates depth [first.fold onSuccess onFailure]
        [second.fold onSuccess' onFailure']) :
    c.Parsers floor (p.observed onSuccess onFailure) (q.observed onSuccess' onFailure') := by
  refine ⟨alike.label, ?_⟩
  intro _ _ _ there
  apply Runs.bind (alike.parse there)
  intro _ _ came
  apply Runs.bind (.write fun depth => entries depth came)
  intro _ _ _
  exact .pure came

theorem watched {p : Parser σ ω Value} {q : Parser τ υ Value}
    (alike : c.Parsers floor p q) (tag : String) :
    c.Parsers floor (p.watched tag) (q.watched tag) := by
  apply alike.observed
  intro depth _ _ came
  cases came with
  | @success value _ _ rest =>
      exact c.journals.entry (.hit tag value) (fun _ => rfl) (c.entryPositions rest)
  | failure stuck =>
      exact c.journals.entry (.miss tag _) (fun _ => rfl) (c.entryPositions stuck)

theorem traced {p : Parser σ ω Value} {q : Parser τ υ Value}
    (alike : c.Parsers floor p q) : c.Parsers floor p.traced q.traced := by
  apply alike.observed
  intro depth _ _ came
  rw [alike.label]
  cases came with
  | @success value _ _ rest =>
      exact c.journals.entry (fun n => .trace (.matched q.label value n)) (fun _ => rfl)
        (c.entryPositions rest)
  | failure stuck =>
      exact c.journals.entry (fun n => .trace (.missed q.label _ n)) (fun _ => rfl)
        (c.entryPositions stuck)

end Parsers

end Descent.Correspondence
