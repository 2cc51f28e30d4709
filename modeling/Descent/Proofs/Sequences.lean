import Descent.Proofs.Chains
import Descent.Proofs.NestedChoices
import Mathlib.Data.Sigma.Basic

/-!
# Sequences of sequences

However parsers are joined two by two, the same ones run in the same order, each where the
one before came to rest, and the first failure decides.  What the brackets decide is how the
values are paired, and under which labels a failure passes on its way to the outermost one.
-/

namespace Descent

variable {σ ι κ ω α β γ δ : Type}

/-- A parser of some type. -/
structure SomeParser (σ ω : Type) where
  Yield : Type
  parser : Parser σ ω Yield

/-- A value of some type. -/
abbrev SomeValue := Σ α : Type, α

/-- Whether parsers have all succeeded so far, with which values, and where. -/
inductive Passage.Ending (σ : Type) where
  | passed (values : List SomeValue) (rest : σ)
  | stopped (failed : Failed σ)

/-- How far parsers have come that run one after the other. -/
structure Passage (σ ω : Type) where
  ending : Passage.Ending σ
  context : Context ω
  journal : Journal

namespace Passage

/-- One more parser runs where the others came to rest, unless one of them has failed. -/
def extend (passage : Passage σ ω) (p : SomeParser σ ω) : Passage σ ω :=
  match passage.ending with
  | .stopped _ => passage
  | .passed values s =>
      let step := p.parser.parse s passage.context
      let ending := match step.value with
        | .success value rest => .passed (values ++ [⟨p.Yield, value⟩]) rest
        | .failure failed => .stopped failed
      ⟨ending, step.context, passage.journal ++ step.journal⟩

/-- Several more parsers run in order. -/
def through (passage : Passage σ ω) (ps : List (SomeParser σ ω)) : Passage σ ω :=
  ps.foldl extend passage

theorem through_append (passage : Passage σ ω) (ps qs : List (SomeParser σ ω)) :
    passage.through (ps ++ qs) = (passage.through ps).through qs :=
  List.foldl_append

/-- After a failure nothing more runs. -/
theorem through_stopped (failed : Failed σ) (context : Context ω) (journal : Journal)
    (ps : List (SomeParser σ ω)) :
    through ⟨.stopped failed, context, journal⟩ ps = ⟨.stopped failed, context, journal⟩ := by
  induction ps with
  | nil => rfl
  | cons p later ih => exact ih

end Passage

namespace Parser

/-- What parsers that run after the given values come to, and the outcome of one parser in
their place: the value is made of theirs, and the failure is theirs under its own label. -/
inductive Shows (p : Parser σ ω α) (width : Nat) (made : List SomeValue → α → Prop)
    (before : List SomeValue) : Passage.Ending σ → Outcome σ α → Prop where
  | passed {values : List SomeValue} {value : α} (parts : made values value) (rest : σ) :
      Shows p width made before (.passed (before ++ values) rest) (.success value rest)
  | stopped {failed reported : Failed σ} (reason : reported.reason = failed.reason)
      (place : reported.remaining = failed.remaining)
      (outermost : 2 ≤ width → reported.label = p.label) :
      Shows p width made before (.stopped failed) (.failure reported)

/-- A parser that runs several others, one after the other.  They may run after others: what
those came to and wrote stays as it is. -/
structure Sequences (p : Parser σ ω α) (ps : List (SomeParser σ ω))
    (made : List SomeValue → α → Prop) : Prop where
  nonempty : ps ≠ []
  label : p.label = String.intercalate " AND " (ps.map (·.parser.label))
  run : ∀ (before : List SomeValue) (s : σ) (context : Context ω) (journal : Journal),
    ∃ ending, Passage.through ⟨.passed before s, context, journal⟩ ps =
        ⟨ending, (p.parse s context).context, journal ++ (p.parse s context).journal⟩ ∧
      p.Shows ps.length made before ending (p.parse s context).value

section

variable {p : Parser σ ω α} {q : Parser σ ω β} {label : String} {combine : α → β → γ} {s rest : σ}
  {context middle last : Context ω} {journal further : Journal}

theorem runBoth_stops_first {failed : Failed σ}
    (first : p.parse s context = ⟨.failure failed, middle, journal⟩) :
    runBoth label combine p q s context =
      ⟨.failure (failed.relabel label), middle, journal⟩ := by
  simp only [runBoth, Run.bind_apply, first, Run.pure_apply, List.append_nil]

theorem runBoth_stops_second {value : α} {failed : Failed σ}
    (first : p.parse s context = ⟨.success value rest, middle, journal⟩)
    (second : q.parse rest middle = ⟨.failure failed, last, further⟩) :
    runBoth label combine p q s context =
      ⟨.failure (failed.relabel label), last, journal ++ further⟩ := by
  simp only [runBoth, Run.bind_apply, first, second, Run.pure_apply, List.append_nil]

theorem runBoth_passes {value : α} {next : β} {place : σ}
    (first : p.parse s context = ⟨.success value rest, middle, journal⟩)
    (second : q.parse rest middle = ⟨.success next place, last, further⟩) :
    runBoth label combine p q s context =
      ⟨.success (combine value next) place, last, journal ++ further⟩ := by
  simp only [runBoth, Run.bind_apply, first, second, Run.pure_apply, List.append_nil]

theorem map_runBoth (f : γ → δ) :
    Outcome.map f <$> runBoth label combine p q s =
      runBoth label (fun first second => f (combine first second)) p q s := by
  funext context
  rw [Run.map_apply]
  rcases first : p.parse s context with ⟨outcome, middle, journal⟩
  cases outcome with
  | failure failed => rw [runBoth_stops_first first, runBoth_stops_first first]; rfl
  | success value rest =>
      rcases second : q.parse rest middle with ⟨outcome, last, further⟩
      cases outcome with
      | failure failed =>
          rw [runBoth_stops_second first second, runBoth_stops_second first second]
          rfl
      | success next place =>
          rw [runBoth_passes first second, runBoth_passes first second]
          rfl

end

namespace Sequences

variable {ps qs : List (SomeParser σ ω)} {p : Parser σ ω α} {q : Parser σ ω β}
  {made : List SomeValue → α → Prop} {made' : List SomeValue → β → Prop}
  {whole : List SomeValue → γ → Prop}

theorem single (p : SomeParser σ ω) {made : List SomeValue → p.Yield → Prop}
    (alone : ∀ value, made [⟨p.Yield, value⟩] value) : p.parser.Sequences [p] made where
  nonempty := List.cons_ne_nil _ _
  label := String.intercalate_singleton.symm
  run before s context journal := by
    rcases came : p.parser.parse s context with ⟨outcome, last, further⟩
    cases outcome with
    | success value rest =>
        refine ⟨.passed (before ++ [⟨p.Yield, value⟩]) rest, ?_, .passed (alone value) rest⟩
        simp only [Passage.through, List.foldl_cons, List.foldl_nil, Passage.extend, came]
    | failure failed =>
        refine ⟨.stopped failed, ?_, .stopped rfl rfl fun wide => absurd wide (by simp)⟩
        simp only [Passage.through, List.foldl_cons, List.foldl_nil, Passage.extend, came]

/-- Two sequences joined are the sequence of both: the second one runs where the first one
came to rest, and a failure of either is reported under the label of both. -/
theorem joint {r : Parser σ ω γ} {combine : α → β → γ} (first : p.Sequences ps made)
    (second : q.Sequences qs made') (label : r.label = p.label ++ " AND " ++ q.label)
    (runs : ∀ s, r.parse s = runBoth r.label combine p q s)
    (joins : ∀ {values value others other}, made values value → made' others other →
      whole (values ++ others) (combine value other)) : r.Sequences (ps ++ qs) whole where
  nonempty := List.append_ne_nil_of_left_ne_nil first.nonempty qs
  label := by
    have front : ps.map (·.parser.label) ≠ [] := mt List.map_eq_nil_iff.mp first.nonempty
    have back : qs.map (·.parser.label) ≠ [] := mt List.map_eq_nil_iff.mp second.nonempty
    rw [label, first.label, second.label, List.map_append,
      String.intercalate_append_of_ne_nil front back]
  run before s context journal := by
    have named : r.label ≠ "" := by
      rw [label]
      simp
    obtain ⟨ending, passes, shown⟩ := first.run before s context journal
    rw [Passage.through_append, passes, runs]
    rcases came : p.parse s context with ⟨outcome, middle, written⟩
    rw [came] at shown
    cases shown with
    | stopped reason place _ =>
        rw [runBoth_stops_first came]
        refine ⟨_, Passage.through_stopped .., .stopped ?_ ?_ ?_⟩
        · rwa [Failed.relabel_reason]
        · rwa [Failed.relabel_remaining]
        · exact fun _ => Failed.label_relabel _ _ named
    | @passed values value parts rest =>
        obtain ⟨ending, passes, shown⟩ :=
          second.run (before ++ values) rest middle (journal ++ written)
        rw [passes]
        rcases went : q.parse rest middle with ⟨outcome, last, further⟩
        rw [went] at shown
        cases shown with
        | stopped reason place _ =>
            rw [runBoth_stops_second came went, List.append_assoc]
            refine ⟨_, rfl, .stopped ?_ ?_ ?_⟩
            · rwa [Failed.relabel_reason]
            · rwa [Failed.relabel_remaining]
            · exact fun _ => Failed.label_relabel _ _ named
        | passed more place =>
            rw [runBoth_passes came went, List.append_assoc, List.append_assoc]
            exact ⟨_, rfl, .passed (joins parts more) place⟩

theorem map {f : α → γ} (sequences : p.Sequences ps made)
    (maps : ∀ {values value}, made values value → whole values (f value)) :
    (p.map f).Sequences ps whole where
  nonempty := sequences.nonempty
  label := sequences.label
  run before s context journal := by
    obtain ⟨ending, passes, shown⟩ := sequences.run before s context journal
    refine ⟨ending, passes, ?_⟩
    change (p.map f).Shows _ whole before ending ((p.parse s context).value.map f)
    rcases came : (p.parse s context).value with ⟨value, rest⟩ | failed
    · rw [came] at shown
      cases shown with
      | passed parts rest => exact .passed (maps parts) rest
    · rw [came] at shown
      cases shown with
      | stopped reason place outermost => exact .stopped reason place outermost

end Sequences

/-- Two parsers that differ in nothing but how their values are grouped, and in the labels of
a failure below the outermost one.  The width is that of the sequences. -/
structure Regroups (p : Parser σ ω α) (q : Parser σ ω β) (width : Nat) (same : α → β → Prop) :
    Prop where
  label : p.label = q.label
  context : ∀ s context, (p.parse s context).context = (q.parse s context).context
  journal : ∀ s context, (p.parse s context).journal = (q.parse s context).journal
  outcome : ∀ s context,
    (∃ value other rest, (p.parse s context).value = .success value rest ∧
        (q.parse s context).value = .success other rest ∧ same value other) ∨
      ∃ failed other, (p.parse s context).value = .failure failed ∧
        (q.parse s context).value = .failure other ∧ failed.reason = other.reason ∧
        failed.remaining = other.remaining ∧ (2 ≤ width → failed.label = other.label)

/-- Parsers that run the same sequence run alike. -/
theorem Sequences.regroups {ps : List (SomeParser σ ω)} {p : Parser σ ω α} {q : Parser σ ω β}
    {made : List SomeValue → α → Prop} {made' : List SomeValue → β → Prop}
    {same : α → β → Prop} (first : p.Sequences ps made) (second : q.Sequences ps made')
    (alike : ∀ {values value other}, made values value → made' values other → same value other) :
    p.Regroups q ps.length same := by
  have label : p.label = q.label := first.label.trans second.label.symm
  -- Both run as the parsers do on their own, so what either comes to is known from them.
  have runs : ∀ s context, ∃ ending : Passage.Ending σ,
      (p.parse s context).context = (q.parse s context).context ∧
        (p.parse s context).journal = (q.parse s context).journal ∧
        p.Shows ps.length made [] ending (p.parse s context).value ∧
        q.Shows ps.length made' [] ending (q.parse s context).value := by
    intro s context
    obtain ⟨ending, passes, shown⟩ := first.run [] s context []
    obtain ⟨other, passes', shown'⟩ := second.run [] s context []
    obtain ⟨rfl, sameContext, sameJournal⟩ := Passage.mk.inj (passes.symm.trans passes')
    exact ⟨ending, sameContext, sameJournal, shown, shown'⟩
  constructor
  · exact label
  · intro s context
    obtain ⟨_, sameContext, _⟩ := runs s context
    exact sameContext
  · intro s context
    obtain ⟨_, _, sameJournal, _⟩ := runs s context
    exact sameJournal
  · intro s context
    obtain ⟨ending, _, _, shown, shown'⟩ := runs s context
    generalize (p.parse s context).value = outcome at shown
    generalize (q.parse s context).value = outcome' at shown'
    cases shown with
    | @passed values value parts rest =>
        left
        cases shown' with
        | passed parts' rest => exact ⟨_, _, rest, rfl, rfl, alike parts parts'⟩
    | stopped reason place outermost =>
        right
        cases shown' with
        | stopped reason' place' outermost' =>
            refine ⟨_, _, rfl, rfl, reason.trans reason'.symm, place.trans place'.symm, ?_⟩
            intro wide
            rw [outermost wide, outermost' wide, label]

end Parser

universe u

/-- Brackets around one or more, each pair around two. -/
inductive Bracketing (γ : Type u) where
  | single (content : γ)
  | both (front back : Bracketing γ)

namespace Bracketing

variable {γ : Type u}

/-- What brackets stand for, given what each pair makes of what is in it. -/
def join (both : γ → γ → γ) : Bracketing γ → γ
  | .single content => content
  | .both front back => both (front.join both) (back.join both)

/-- What stands between the brackets, in order. -/
def leaves : Bracketing γ → List γ
  | .single content => [content]
  | .both front back => front.leaves ++ back.leaves

/-- A chain: all brackets open before the first one. -/
def chain (first : γ) (later : List γ) : Bracketing γ :=
  later.foldl (fun front next => .both front (.single next)) (.single first)

theorem chain_concat (first : γ) (later : List γ) (last : γ) :
    chain first (later ++ [last]) = .both (chain first later) (.single last) := by
  rw [chain, List.foldl_append]
  rfl

theorem leaves_chain (first : γ) (later : List γ) :
    (chain first later).leaves = first :: later := by
  induction later using List.reverseRecOn with
  | nil => rfl
  | append_singleton later last ih => rw [chain_concat, leaves, leaves, ih, List.cons_append]

theorem join_chain (both : γ → γ → γ) (first : γ) (later : List γ) :
    (chain first later).join both = later.foldl both first := by
  induction later using List.reverseRecOn with
  | nil => rfl
  | append_singleton later last ih =>
      rw [chain_concat, join, join, ih, List.foldl_append, List.foldl_cons, List.foldl_nil]

/-- The values that are paired in a value as the brackets are. -/
def parts? : Bracketing γ → Value → Option (List Value)
  | .single _, value => some [value]
  | .both front back, .tuple [first, second] =>
      (front.parts? first).bind fun values => (back.parts? second).map (values ++ ·)
  | .both _ _, _ => none

theorem parts?_pair {front back : Bracketing γ} {first second : Value} {values others : List Value}
    (left : front.parts? first = some values) (right : back.parts? second = some others) :
    (both front back).parts? (.pair first second) = some (values ++ others) := by
  simp only [Value.pair, parts?, left, right, Option.bind_some, Option.map_some]

theorem of_parts?_both {front back : Bracketing γ} {value : Value} {values : List Value}
    (paired : (both front back).parts? value = some values) :
    ∃ first second firsts seconds, value = .pair first second ∧
      front.parts? first = some firsts ∧ back.parts? second = some seconds ∧
      values = firsts ++ seconds := by
  unfold parts? at paired
  split at paired
  · next equal => cases equal
  · next front' back' first second equal =>
      obtain ⟨rfl, rfl⟩ := both.inj equal
      obtain ⟨firsts, left, paired⟩ := Option.bind_eq_some_iff.mp paired
      obtain ⟨seconds, right, rfl⟩ := Option.map_eq_some_iff.mp paired
      exact ⟨first, second, firsts, seconds, rfl, left, right, rfl⟩
  · cases paired

theorem length_of_parts? {t : Bracketing γ} {value : Value} {values : List Value}
    (paired : t.parts? value = some values) : values.length = t.leaves.length := by
  induction t generalizing value values with
  | single content =>
      cases paired
      rfl
  | both front back ihFront ihBack =>
      obtain ⟨first, second, firsts, seconds, -, left, right, rfl⟩ := of_parts?_both paired
      rw [List.length_append, ihFront left, ihBack right, leaves, List.length_append]

/-- The values in a chain of pairs are its parts. -/
theorem chainParts?_of_parts? {first : γ} {later : List γ} {value : Value} {values : List Value}
    (paired : (chain first later).parts? value = some values) :
    value.chainParts? (later.length + 1) = some values := by
  induction later using List.reverseRecOn generalizing value values with
  | nil => exact paired
  | append_singleton later last ih =>
      rw [chain_concat] at paired
      obtain ⟨front, final, firsts, seconds, rfl, left, right, rfl⟩ := of_parts?_both paired
      cases right
      rw [List.length_append, List.length_singleton, Value.pair, Value.chainParts?, ih left]
      rfl

end Bracketing

/-- Two parsers in a pair of brackets. -/
def SomeParser.both (p q : SomeParser σ ω) : SomeParser σ ω :=
  ⟨p.Yield × q.Yield, p.parser.both q.parser⟩

namespace Bracketing

/-- The values that are paired as the brackets are. -/
def parts : (t : Bracketing (SomeParser σ ω)) → (t.join .both).Yield → List SomeValue
  | .single p, value => [⟨p.Yield, value⟩]
  | .both front back, (first, second) => front.parts first ++ back.parts second

/-- Parsers in brackets are the sequence of those between the brackets. -/
structure RunsInOrder (t : Bracketing (SomeParser σ ω)) : Prop where
  sequences : (t.join .both).parser.Sequences t.leaves fun values value => t.parts value = values
  /-- Each parser has one value in the whole. -/
  yields : ∀ value, (t.parts value).map Sigma.fst = t.leaves.map SomeParser.Yield

theorem sequences_join (t : Bracketing (SomeParser σ ω)) :
    (t.join .both).parser.Sequences t.leaves fun values value => t.parts value = values := by
  induction t with
  | single p => exact .single p fun _ => rfl
  | both front back ihFront ihBack =>
      apply ihFront.joint ihBack
      · rfl
      · intro s
        rfl
      · rintro _ value _ other rfl rfl
        rfl

theorem map_fst_parts (t : Bracketing (SomeParser σ ω)) (value : (t.join .both).Yield) :
    (t.parts value).map Sigma.fst = t.leaves.map SomeParser.Yield := by
  induction t with
  | single p => rfl
  | both front back ihFront ihBack =>
      obtain ⟨first, second⟩ := value
      rw [parts, leaves, List.map_append, List.map_append, ihFront, ihBack]

theorem runsInOrder (t : Bracketing (SomeParser σ ω)) : t.RunsInOrder where
  sequences := t.sequences_join
  yields := t.map_fst_parts

/-- In different brackets the same parsers run alike. -/
theorem regroups {t u : Bracketing (SomeParser σ ω)} (same : t.leaves = u.leaves) :
    (t.join .both).parser.Regroups (u.join .both).parser t.leaves.length
      fun value other => t.parts value = u.parts other := by
  have second := u.sequences_join
  rw [← same] at second
  apply t.sequences_join.regroups second
  rintro values value other rfl equal
  exact equal.symm

end Bracketing

/-- Values of grammars as values of some type. -/
def wrapped (values : List Value) : List SomeValue := values.map (Sigma.mk Value)

theorem wrapped_injective : Function.Injective wrapped :=
  List.map_injective_iff.mpr sigma_mk_injective

/-- The value pairs the given ones as the brackets do. -/
def Bracketing.Pairs (t : Bracketing γ) (parts : List SomeValue) (value : Value) : Prop :=
  ∃ values, t.parts? value = some values ∧ parts = wrapped values

namespace Grammar

theorem depthLimit_join (t : Bracketing (Grammar ι κ)) :
    depthLimit (t.join .both) = depthLimitOfAll t.leaves := by
  induction t with
  | single content => simp [Bracketing.join, Bracketing.leaves, depthLimitOfAll]
  | both front back ihFront ihBack =>
      rw [Bracketing.join, depthLimit, ihFront, ihBack, Bracketing.leaves, depthLimitOfAll_append]

variable [Cursor σ ι ω] [Item ι] [Leaves κ σ ω] {scope : Scope σ ω}

/-- The parser of a grammar as one of several. -/
def one (scope : Scope σ ω) (grammar : Grammar ι κ) : SomeParser σ ω :=
  ⟨Value, (grammar.build scope none).value⟩

theorem build_both_parse (p q : Grammar ι κ) (s : σ) :
    ((both p q).build scope none).value.parse s =
      let first := (p.build scope none).value
      let second := (q.build scope none).value
      Parser.runBoth (first.label ++ " AND " ++ second.label) Value.pair first second s := by
  rw [build]
  exact Parser.map_runBoth _

/-- The parser of grammars in brackets runs their parsers one after the other. -/
theorem sequences_join (scope : Scope σ ω) (t : Bracketing (Grammar ι κ)) :
    ((t.join .both).build scope none).value.Sequences (t.leaves.map (one scope)) t.Pairs := by
  induction t with
  | single grammar => exact .single (one scope grammar) fun value => ⟨[value], rfl, rfl⟩
  | both front back ihFront ihBack =>
      rw [Bracketing.leaves, List.map_append]
      have label : (((Bracketing.both front back).join both).build scope none).value.label =
          ((front.join both).build scope none).value.label ++ " AND " ++
            ((back.join both).build scope none).value.label := by
        rw [Bracketing.join, build]
        rfl
      apply ihFront.joint ihBack label
      · intro s
        rw [label]
        exact build_both_parse ..
      · rintro _ first _ second ⟨values, left, rfl⟩ ⟨others, right, rfl⟩
        refine ⟨values ++ others, Bracketing.parts?_pair left right, ?_⟩
        exact List.map_append.symm

/-- Building the parser of grammars in brackets writes what building theirs writes. -/
theorem build_join_journal (t : Bracketing (Grammar ι κ)) :
    ((t.join .both).build scope none).journal = (buildAll scope t.leaves).journal := by
  rw [buildAll_journal]
  induction t with
  | single grammar => simp [Bracketing.join, Bracketing.leaves]
  | both front back ihFront ihBack =>
      rw [Bracketing.join, build, Bracketing.leaves, List.flatMap_append, ← ihFront, ← ihBack]
      simp

/-- A step of a chain that pairs is the same as a pair that the chain starts from. -/
theorem build_chain_both (name : Option String) (first next : Grammar ι κ)
    (steps : List (ChainStep (Grammar ι κ))) (finish : Finish) :
    (chain first (.both next :: steps) finish).build scope name =
      (chain (both first next) steps finish).build scope name := by
  simp only [build, buildSteps]
  refine congrArg₂ Logged.mk rfl ?_
  simp only [Logged.journal_bind, Logged.journal_pure, Logged.value_bind, Logged.value_pure,
    List.append_assoc, List.append_nil]
  rfl

/-- So are several such steps in a row. -/
theorem build_chain_foldl (name : Option String) (first : Grammar ι κ) (later : List (Grammar ι κ))
    (steps : List (ChainStep (Grammar ι κ))) (finish : Finish) :
    (chain first (later.map .both ++ steps) finish).build scope name =
      (chain (later.foldl both first) steps finish).build scope name := by
  induction later generalizing first with
  | nil => rfl
  | cons next later ih =>
      rw [List.map_cons, List.cons_append, build_chain_both, ih, List.foldl_cons]

omit [Item ι] in
theorem depthLimit_foldl (first : Grammar ι κ) (later : List (Grammar ι κ)) :
    depthLimit (later.foldl both first) = depthLimitOfAll (first :: later) := by
  rw [← Bracketing.join_chain, depthLimit_join, Bracketing.leaves_chain]

omit [Item ι] in
theorem depthLimitOfSteps_both (later : List (Grammar ι κ))
    (steps : List (ChainStep (Grammar ι κ))) :
    depthLimitOfSteps (later.map .both ++ steps) =
      max (depthLimitOfAll later) (depthLimitOfSteps steps) := by
  induction later with
  | nil => simp [depthLimitOfAll]
  | cons next later ih =>
      rw [List.map_cons, List.cons_append, depthLimitOfSteps, ih, depthLimitOfAll, Nat.max_assoc]

/-- Grammars in brackets stand for the sequence of those between the brackets. -/
structure JoinsInOrder (σ : Type) {ω : Type} [Cursor σ ι ω] [Leaves κ σ ω] (rules : Rules ι κ)
    (t : Bracketing (Grammar ι κ)) : Prop where
  sequences :
    let scope : Scope σ ω := rules.scope (levels rules (t.join .both))
    ((t.join .both).parser rules).value.Sequences (t.leaves.map (one scope)) t.Pairs
  length : ∀ {value values}, t.parts? value = some values → values.length = t.leaves.length

/-- Grammars in two kinds of brackets stand for parsers that are built and run alike. -/
structure JoinsAlike (σ : Type) {ω : Type} [Cursor σ ι ω] [Leaves κ σ ω] (rules : Rules ι κ)
    (t u : Bracketing (Grammar ι κ)) : Prop where
  built : ((t.join .both).parser rules : Logged (Parser σ ω Value)).journal =
    ((u.join .both).parser rules : Logged (Parser σ ω Value)).journal
  regroups : ((t.join .both).parser rules : Logged (Parser σ ω Value)).value.Regroups
    ((u.join .both).parser rules).value t.leaves.length fun value other =>
      ∃ values, t.parts? value = some values ∧ u.parts? other = some values

/-- A chain of pairs, flattened to its width, yields the values of its parts as a tuple. -/
structure Flattens (σ : Type) {ω : Type} [Cursor σ ι ω] [Leaves κ σ ω] (rules : Rules ι κ)
    (first : Grammar ι κ) (later : List (Grammar ι κ)) : Prop where
  sequences :
    let flat : Grammar ι κ := .map (later.foldl both first) (.flatten (later.length + 1))
    let scope : Scope σ ω := rules.scope (levels rules flat)
    (flat.parser rules).value.Sequences ((first :: later).map (one scope))
      fun parts value => ∃ values, value = .tuple values ∧ parts = wrapped values
  /-- It makes no difference whether it is composed step by step. -/
  composed :
    ((chain first (later.map .both ++ [.map (.flatten (later.length + 1))]) .bare).parser rules :
        Logged (Parser σ ω Value)) =
      (map (later.foldl both first) (.flatten (later.length + 1))).parser rules

theorem joinsInOrder (rules : Rules ι κ) (t : Bracketing (Grammar ι κ)) :
    JoinsInOrder σ rules t where
  sequences := sequences_join _ t
  length paired := Bracketing.length_of_parts? paired

theorem joinsAlike (rules : Rules ι κ) {t u : Bracketing (Grammar ι κ)}
    (same : t.leaves = u.leaves) : JoinsAlike σ rules t u := by
  have level : levels rules (t.join .both) = levels rules (u.join .both) := by
    rw [levels, levels, depthLimit_join, depthLimit_join, same]
  have second : ((u.join .both).parser rules : Logged (Parser σ ω Value)).value.Sequences
      (t.leaves.map (one (rules.scope (levels rules (t.join .both))))) u.Pairs := by
    rw [level, same]
    exact sequences_join _ u
  constructor
  · rw [parser, parser, level, build_join_journal, build_join_journal, same]
  · rw [← List.length_map (one (rules.scope (levels rules (t.join .both)) : Scope σ ω))]
    apply (sequences_join _ t).regroups second
    rintro _ value other ⟨values, left, rfl⟩ ⟨others, right, equal⟩
    obtain rfl := wrapped_injective equal
    exact ⟨values, left, right⟩

theorem flattens (rules : Rules ι κ) (first : Grammar ι κ) (later : List (Grammar ι κ)) :
    Flattens σ rules first later := by
  constructor
  · intro flat scope
    have chained := sequences_join scope (Bracketing.chain first later)
    rw [Bracketing.leaves_chain, Bracketing.join_chain] at chained
    have built : (flat.parser rules).value =
        ((later.foldl both first).build scope none).value.map
          (Transform.flatten (later.length + 1)).apply := by
      rw [parser, build]
      rfl
    rw [built]
    apply chained.map
    rintro _ value ⟨values, paired, rfl⟩
    refine ⟨values, ?_, rfl⟩
    simp only [Transform.apply, Bracketing.chainParts?_of_parts? paired]
  · have level : levels rules
          (chain first (later.map .both ++ [.map (.flatten (later.length + 1))]) .bare) =
        levels rules (map (later.foldl both first) (.flatten (later.length + 1))) := by
      simp only [levels, depthLimit, depthLimitOfSteps_both, depthLimit_foldl, depthLimitOfAll,
        depthLimitOfSteps, Nat.max_zero]
    rw [parser, parser, level, build_chain_foldl]
    simp only [build, buildSteps]
    refine congrArg₂ Logged.mk rfl ?_
    simp only [Logged.journal_bind, Logged.journal_pure, List.append_nil]

end Grammar

/-- Sequencing is associative: parsers that are joined two by two run one after the other, up
to the first that fails, whichever brackets they stand in.  Label, contexts and journals are
the same, and so are the place that is reached and the values in order, or the reason, place
and outermost label of the failure.  For a chain, flattening yields the values as a tuple. -/
theorem sequences_regroup :
    (∀ {σ ω : Type} (t : Bracketing (SomeParser σ ω)), t.RunsInOrder) ∧
      (∀ {σ ω : Type} (t u : Bracketing (SomeParser σ ω)), t.leaves = u.leaves →
        (t.join .both).parser.Regroups (u.join .both).parser t.leaves.length
          fun value other => t.parts value = u.parts other) ∧
      ∀ {σ ι κ ω : Type} [Cursor σ ι ω] [Item ι] [Leaves κ σ ω] (rules : Rules ι κ),
        (∀ t, Grammar.JoinsInOrder σ rules t) ∧
          (∀ t u, t.leaves = u.leaves → Grammar.JoinsAlike σ rules t u) ∧
          ∀ first later, Grammar.Flattens σ rules first later := by
  refine ⟨?_, ?_, ?_⟩
  · intro σ ω t
    exact t.runsInOrder
  · intro σ ω t u same
    exact Bracketing.regroups same
  · intro σ ι κ ω _ _ _ rules
    refine ⟨?_, ?_, ?_⟩
    · intro t
      exact Grammar.joinsInOrder rules t
    · intro t u same
      exact Grammar.joinsAlike rules same
    · intro first later
      exact Grammar.flattens rules first later

/-- Three parsers of different types, and three numbers, in two kinds of brackets. -/
theorem sequences_regroup_numbers :
    let value : Bracketing (SomeParser TextCursor Unit) := .single ⟨UInt64, .number⟩
    let gap : Bracketing (SomeParser TextCursor Unit) := .single ⟨Option String, .optional .space⟩
    let unit : Bracketing (SomeParser TextCursor Unit) := .single ⟨String, .letter⟩
    let number (n : Int) : Bracketing (Grammar Int Empty) := .single (.exact n)
    let left := Bracketing.both (.both (number 1) (number 2)) (number 3)
    let right := Bracketing.both (number 1) (.both (number 2) (number 3))
    let parse (t : Bracketing (Grammar Int Empty)) (s : SliceCursor Int) :=
      ((t.join .both).parse [] s ⟨(), 0⟩).value
    let good : SliceCursor Int := .start #[1, 2, 3] (· == ·)
    let bad : SliceCursor Int := .start #[1, 4] (· == ·)
    (((value.both gap).both unit).join .both).parser.Regroups
        ((value.both (gap.both unit)).join .both).parser 3
        (fun first second => Bracketing.parts ((value.both gap).both unit) first =
          Bracketing.parts (value.both (gap.both unit)) second) ∧
      Grammar.JoinsAlike (SliceCursor Int) [] left right ∧
      parse left good =
        .success (.pair (.pair (.int 1) (.int 2)) (.int 3)) { good with index := 3 } ∧
      parse right good =
        .success (.pair (.int 1) (.pair (.int 2) (.int 3))) { good with index := 3 } ∧
      parse left bad =
        .failure ⟨"exact value not found", ["EXACT 2", "EXACT 1 AND EXACT 2",
          "EXACT 1 AND EXACT 2 AND EXACT 3"], { bad with index := 1 }⟩ ∧
      parse right bad =
        .failure ⟨"exact value not found", ["EXACT 2", "EXACT 2 AND EXACT 3",
          "EXACT 1 AND EXACT 2 AND EXACT 3"], { bad with index := 1 }⟩ := by
  intro value gap unit number left right parse good bad
  have typed := sequences_regroup.2.1 ((value.both gap).both unit) (value.both (gap.both unit)) rfl
  have alike : Grammar.JoinsAlike (SliceCursor Int) [] left right :=
    (sequences_regroup.2.2 []).2.1 left right rfl
  refine ⟨typed, alike, ?_, ?_, ?_, ?_⟩
  · rfl
  · rfl
  · rfl
  · rfl

end Descent
