import Descent.Parser.Deferred
import Descent.Parser.Repetition
import Descent.Parser.Transform

/-!
# Parsers that lose nothing

The atoms of a value are read through options, lists and tuples.  A parser loses nothing
if the atoms of whatever it yields are what it has read.  Parsers composed without
dropping or changing values lose nothing: an option that is absent has read nothing, and
what was read by an alternative, an attempt or an item that failed is read again.
-/

namespace Descent

namespace Value

mutual

/-- The values inside a value that are neither options nor lists nor tuples, depth
first. -/
def atoms : Value → List Value
  | .absent => []
  | .present value => atoms value
  | .list items => atomsOfAll items
  | .tuple parts => atomsOfAll parts
  | value => [value]

def atomsOfAll : List Value → List Value
  | [] => []
  | value :: rest => atoms value ++ atomsOfAll rest

end

theorem atomsOfAll_eq (values : List Value) : atomsOfAll values = values.flatMap atoms := by
  induction values with
  | nil => rfl
  | cons value rest ih => simp [atomsOfAll, ih]

theorem atoms_list (items : List Value) : (Value.list items).atoms = items.flatMap atoms := by
  rw [atoms, atomsOfAll_eq]

theorem atoms_pair (first second : Value) :
    (pair first second).atoms = first.atoms ++ second.atoms := by
  rw [pair, atoms, atomsOfAll_eq]
  simp

theorem atoms_ofOption (value : Option Value) :
    (ofOption value).atoms = value.elim [] atoms := by
  cases value with
  | none => rw [ofOption, atoms, Option.elim_none]
  | some value => rw [ofOption, atoms, Option.elim_some]

mutual

theorem strings_eq (value : Value) : value.strings = value.atoms.flatMap strings := by
  cases value with
  | present value => rw [strings, atoms, strings_eq value]
  | list items => rw [strings, atoms, stringsOfAll_eq_atoms items]
  | tuple parts => rw [strings, atoms, stringsOfAll_eq_atoms parts]
  | _ => simp [strings, atoms]

theorem stringsOfAll_eq_atoms (values : List Value) :
    stringsOfAll values = (atomsOfAll values).flatMap strings := by
  cases values with
  | nil => rfl
  | cons value rest =>
      rw [stringsOfAll, atomsOfAll, List.flatMap_append, strings_eq value,
        stringsOfAll_eq_atoms rest]

end

end Value

variable {σ ι ω α β γ : Type}

/-- What is read between two cursors, and what is demanded of shared states for it. -/
structure Reading (σ : Type) {ι ω : Type} [Cursor σ ι ω] [Item ι] where
  shared : ω → Prop
  /-- Certain atoms are read on the way from one cursor to another one. -/
  reads : σ → List Value → σ → Prop
  nil : ∀ s, reads s [] s
  append : ∀ {s r t first second},
    reads s first r → reads r second t → reads s (first ++ second) t
  atEnd : ∀ (s : σ) state, shared state → shared (Cursor.atEnd s state).2
  peek : ∀ (s : σ) state, shared state → shared (Cursor.peek? s state).2
  take : ∀ (s : σ) (item : ι) state, shared state →
    shared (Cursor.take? s item state).2 ∧
      ∀ taken ∈ (Cursor.take? s item state).1, reads s (Item.toValue taken.1).atoms taken.2

namespace Reading

variable [Cursor σ ι ω] [Item ι] (reading : Reading σ)

def Runs (good : α → Prop) (run : Run ω α) : Prop :=
  ∀ context, reading.shared context.shared →
    good (run context).value ∧ reading.shared (run context).context.shared

/-- A success carries what was read since the parser started. -/
def Carries (s : σ) (atoms : α → List Value) : Outcome σ α → Prop
  | .success value rest => reading.reads s (atoms value) rest
  | .failure _ => True

/-- The atoms of what the parser yields are what it has read. -/
def Lossless (atoms : α → List Value) (p : Parser σ ω α) : Prop :=
  ∀ label s, reading.Runs (reading.Carries s atoms) (p.run label s)

variable {reading}

namespace Runs

theorem pure {good : α → Prop} {value : α} (holds : good value) :
    reading.Runs good (Pure.pure value : Run ω α) :=
  fun _ shared => ⟨holds, shared⟩

theorem bind {good : α → Prop} {better : β → Prop} {first : Run ω α} {next : α → Run ω β}
    (before : reading.Runs good first)
    (after : ∀ value, good value → reading.Runs better (next value)) :
    reading.Runs better (first >>= next) := by
  intro context shared
  obtain ⟨holds, kept⟩ := before context shared
  exact after _ holds _ kept

theorem map {good : α → Prop} {better : β → Prop} {run : Run ω α} {f : α → β}
    (before : reading.Runs good run) (after : ∀ value, good value → better (f value)) :
    reading.Runs better (f <$> run) := by
  intro context shared
  obtain ⟨holds, kept⟩ := before context shared
  exact ⟨after _ holds, kept⟩

theorem ask {good : α → Prop} {query : Query ω α}
    (answers : ∀ state, reading.shared state →
      reading.shared (query state).2 ∧ good (query state).1) :
    reading.Runs good (Run.ask query) := by
  intro context shared
  exact (answers context.shared shared).symm

theorem write (event : Event) : reading.Runs (fun _ => True) (Run.write event) :=
  fun _ shared => ⟨trivial, shared⟩

end Runs

theorem Carries.mapFailure {s : σ} {atoms : α → List Value} {outcome : Outcome σ α}
    (carries : reading.Carries s atoms outcome) (f : Failed σ → Failed σ) :
    reading.Carries s atoms (outcome.mapFailure f) := by
  cases outcome with
  | success => exact carries
  | failure => trivial

namespace Lossless

variable {p : Parser σ ω α} {q : Parser σ ω β} {atoms : α → List Value}
  {others : β → List Value}

theorem parse (lossless : reading.Lossless atoms p) (s : σ) :
    reading.Runs (reading.Carries s atoms) (p.parse s) :=
  lossless p.label s

theorem called (lossless : reading.Lossless atoms p) (name : Option String) :
    reading.Lossless atoms (p.called name) := by
  cases name with
  | none => exact lossless
  | some label => exact lossless

theorem refuse (label reason : String) : reading.Lossless atoms (.refuse label reason) :=
  fun _ _ => .pure trivial

theorem relabeled (lossless : reading.Lossless atoms p) (label : String) :
    reading.Lossless atoms (p.relabeled label) := by
  intro _ s
  exact (lossless.parse s).map fun _ carries => carries.mapFailure _

theorem guarded (lossless : reading.Lossless atoms p) : reading.Lossless atoms p.guarded := by
  intro label s
  have asked : reading.Runs (fun _ => True) (Run.ask (Cursor.atEnd s)) :=
    .ask fun state shared => ⟨reading.atEnd s state shared, trivial⟩
  apply asked.bind
  intro ended _
  cases ended with
  | true => exact .pure trivial
  | false => exact (lossless.parse s).map fun _ carries => carries.mapFailure _

theorem create {run : σ → Run ω (Outcome σ α)} (label : String)
    (lossless : ∀ s, reading.Runs (reading.Carries s atoms) (run s)) :
    reading.Lossless atoms (.create label run) := by
  have bare : reading.Lossless atoms ⟨label, fun _ s => run s⟩ := fun _ s => lossless s
  exact bare.guarded

theorem labeled (lossless : reading.Lossless atoms p) (label : String) :
    reading.Lossless atoms (.labeled label p) :=
  create label lossless.parse

theorem map (lossless : reading.Lossless atoms p) {f : α → β}
    (same : ∀ value, others (f value) = atoms value) : reading.Lossless others (p.map f) := by
  intro _ s
  apply (lossless.parse s).map
  intro outcome carries
  cases outcome with
  | success value rest =>
      change reading.reads s (others (f value)) rest
      rw [same]
      exact carries
  | failure => trivial

theorem taken {s : σ} (item : ι) :
    reading.Runs
      (fun answer => ∀ found ∈ answer, reading.reads s (Item.toValue found.1).atoms found.2)
      (Run.ask (Cursor.take? s item)) :=
  .ask (reading.take s item)

theorem exact (expected : ι) :
    reading.Lossless (fun item => (Item.toValue item).atoms) (.exact expected) := by
  apply guarded
  intro label s
  apply (taken expected).bind
  intro found read
  cases found with
  | some found => exact .pure (read found rfl)
  | none => exact .pure trivial

theorem nextItem (label : String) :
    reading.Lossless Value.atoms (.nextItem label Item.toValue) := by
  apply create
  intro s
  have asked : reading.Runs (fun _ => True) (Run.ask (Cursor.peek? s)) :=
    .ask fun state shared => ⟨reading.peek s state shared, trivial⟩
  apply asked.bind
  intro next _
  cases next with
  | none => exact .pure trivial
  | some item =>
      apply (taken item).bind
      intro found read
      cases found with
      | some found => exact .pure (read found rfl)
      | none => exact .pure trivial

theorem both (first : reading.Lossless atoms p) (second : reading.Lossless others q) :
    reading.Lossless (fun pair => atoms pair.1 ++ others pair.2) (p.both q) := by
  intro label s
  apply (first.parse s).bind
  intro outcome carries
  cases outcome with
  | failure => exact .pure trivial
  | success value rest =>
      apply (second.parse rest).bind
      intro outcome carries'
      cases outcome with
      | failure => exact .pure trivial
      | success value' last => exact .pure (reading.append carries carries')

theorem optional (lossless : reading.Lossless atoms p) :
    reading.Lossless (fun value => value.elim [] atoms) p.optional := by
  intro _ s
  apply (lossless.parse s).bind
  intro outcome carries
  cases outcome with
  | success value rest => exact .pure carries
  | failure => exact .pure (reading.nil s)

theorem attempt (lossless : reading.Lossless atoms p) : reading.Lossless atoms p.attempt := by
  intro label s
  exact (lossless.parse s).map fun _ carries => (carries.mapFailure _).mapFailure _

theorem firstSuccess {ps : List (Parser σ ω α)} (lossless : ∀ p ∈ ps, reading.Lossless atoms p)
    (s : σ) :
    reading.Runs (fun answer => ∀ found ∈ answer, reading.reads s (atoms found.1) found.2)
      (Parser.firstSuccess ps s) := by
  induction ps with
  | nil => exact .pure fun _ member => by cases member
  | cons p later ih =>
      apply ((lossless p (by simp)).parse s).bind
      intro outcome carries
      cases outcome with
      | success value rest =>
          refine .pure ?_
          intro _ member
          cases member
          exact carries
      | failure => exact ih fun q member => lossless q (by simp [member])

theorem firstOf {ps : List (Parser σ ω α)} (lossless : ∀ p ∈ ps, reading.Lossless atoms p) :
    reading.Lossless atoms (.firstOf ps) := by
  apply guarded
  intro label s
  apply (firstSuccess lossless s).bind
  intro answer read
  cases answer with
  | some found => exact .pure (read found rfl)
  | none => exact .pure trivial

theorem collect (lossless : reading.Lossless atoms p) (label : String) (requireProgress : Bool)
    (cap : Nat) (s : σ) :
    reading.Runs (fun answer => reading.reads s (answer.1.flatMap atoms) answer.2)
      (Parser.collect p label requireProgress cap s) := by
  induction cap generalizing s with
  | zero => exact .pure (reading.nil s)
  | succ cap ih =>
      apply (lossless.parse s).bind
      intro outcome carries
      cases outcome with
      | failure => exact .pure (reading.nil s)
      | success value rest =>
          simp only
          split
          -- A stalled item is dropped together with whatever it may have read.
          · exact (Runs.write _).bind fun _ _ => .pure (reading.nil s)
          · apply (ih rest).map
            intro answer read
            exact reading.append carries read

theorem many (lossless : reading.Lossless atoms p) (limits : Limits) :
    reading.Lossless (List.flatMap atoms) (p.many limits) := by
  intro label s
  exact (lossless.collect label _ _ s).map fun _ read => read

theorem many1 (lossless : reading.Lossless atoms p) (limits : Limits) :
    reading.Lossless (List.flatMap atoms) (p.many1 limits) := by
  intro label s
  apply (lossless.parse s).bind
  intro outcome carries
  cases outcome with
  | failure => exact .pure trivial
  | success value rest =>
      apply (lossless.collect label _ _ rest).map
      intro answer read
      exact reading.append carries read

theorem observed (lossless : reading.Lossless atoms p) (onSuccess : α → σ → Event)
    (onFailure : Failed σ → Event) :
    reading.Lossless atoms (p.observed onSuccess onFailure) := by
  intro _ s
  apply (lossless.parse s).bind
  intro outcome carries
  exact (Runs.write _).bind fun _ _ => .pure carries

theorem deferred {build : Unit → Logged (Parser σ ω α)} (label : String) (limit : Nat)
    (lossless : reading.Lossless atoms (build ()).value) :
    reading.Lossless atoms (.deferred label limit build) := by
  intro current s context shared
  by_cases room : context.depth < limit
  · rw [Parser.deferred_run_open room]
    exact lossless.parse s { context with depth := context.depth + 1 } shared
  · rw [Parser.deferred_run_full (Nat.le_of_not_lt room)]
    exact ⟨trivial, shared⟩

end Lossless

end Reading

end Descent
