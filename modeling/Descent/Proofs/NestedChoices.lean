import Descent.Proofs.Pulls
import Descent.Proofs.Reguarding

/-!
# Nested choices

A choice runs its alternatives on the cursor it was given, one after the other up to the
first that succeeds.  So an alternative that is a choice itself can be replaced by its own
alternatives: what the inner choice reports is dropped, its guard asks what the outer one
has asked already, and its label is made of theirs.
-/

namespace Descent

variable {σ ι κ ω α γ δ ε : Type}

/-- An alternative of a choice: a single one, or a choice of one or more in its turn. -/
inductive Alternative (γ : Type) where
  | single (content : γ)
  | choice (first : Alternative γ) (later : List (Alternative γ))

namespace Alternative

mutual

/-- What an alternative stands for, given what single ones and choices stand for. -/
def fold (single : γ → δ) (choose : List δ → δ) : Alternative γ → δ
  | .single content => single content
  | .choice first later => choose (fold single choose first :: foldAll single choose later)

/-- What alternatives stand for, in order. -/
def foldAll (single : γ → δ) (choose : List δ → δ) : List (Alternative γ) → List δ
  | [] => []
  | first :: later => fold single choose first :: foldAll single choose later

end

mutual

/-- The single ones in an alternative, in order. -/
def singles : Alternative γ → List γ
  | .single content => [content]
  | .choice first later => singles first ++ singlesOfAll later

/-- The single ones in several alternatives, in order. -/
def singlesOfAll : List (Alternative γ) → List γ
  | [] => []
  | first :: later => singles first ++ singlesOfAll later

end

/-- What is made of a list does not change when a choice in it is replaced by what it is a
choice of, provided that what stands before it is good. -/
def Splices (choose : List δ → δ) (good : δ → Prop) (whole : List δ → ε) : Prop :=
  ∀ before inner after : List δ, (∀ d ∈ before, good d) → inner ≠ [] →
    whole (before ++ choose inner :: after) = whole (before ++ inner ++ after)

section

variable {single : γ → δ} {choose : List δ → δ} {good : δ → Prop} {whole : List δ → ε}

theorem good_append {before : List δ} (goodBefore : ∀ d ∈ before, good d)
    (goodSingles : ∀ content, good (single content)) (contents : List γ) :
    ∀ d ∈ before ++ contents.map single, good d := by
  intro d member
  rcases List.mem_append.mp member with earlier | there
  · exact goodBefore d earlier
  · obtain ⟨content, _, rfl⟩ := List.mem_map.mp there
    exact goodSingles content

mutual

theorem splice_fold (splices : Splices choose good whole)
    (goodSingles : ∀ content, good (single content)) {before : List δ}
    (goodBefore : ∀ d ∈ before, good d) (alternative : Alternative γ) (after : List δ) :
    whole (before ++ alternative.fold single choose :: after) =
      whole (before ++ (alternative.singles.map single ++ after)) := by
  cases alternative with
  | single content => rw [fold, singles, List.map_singleton, List.singleton_append]
  | choice first later =>
      -- By the time the later ones are replaced, only single ones stand before them.
      have goodFirst := good_append goodBefore goodSingles first.singles
      calc
        whole (before ++ fold single choose (.choice first later) :: after)
          = whole (before ++ (fold single choose first :: foldAll single choose later) ++
              after) := by
            rw [fold]
            exact splices before _ after goodBefore (List.cons_ne_nil _ _)
        _ = whole (before ++ first.singles.map single ++
              (foldAll single choose later ++ after)) := by
            rw [List.append_assoc, List.cons_append,
              splice_fold splices goodSingles goodBefore first, List.append_assoc]
        _ = whole (before ++ ((singles (.choice first later)).map single ++ after)) := by
            rw [splice_foldAll splices goodSingles goodFirst later, singles, List.map_append,
              List.append_assoc, List.append_assoc]

theorem splice_foldAll (splices : Splices choose good whole)
    (goodSingles : ∀ content, good (single content)) {before : List δ}
    (goodBefore : ∀ d ∈ before, good d) (alternatives : List (Alternative γ)) (after : List δ) :
    whole (before ++ (foldAll single choose alternatives ++ after)) =
      whole (before ++ ((singlesOfAll alternatives).map single ++ after)) := by
  cases alternatives with
  | nil => rfl
  | cons first later =>
      have goodFirst := good_append goodBefore goodSingles first.singles
      rw [foldAll, List.cons_append, splice_fold splices goodSingles goodBefore first,
        ← List.append_assoc, splice_foldAll splices goodSingles goodFirst later, singlesOfAll,
        List.map_append, List.append_assoc, List.append_assoc]

end

/-- Choices that can be replaced by their own alternatives one at a time can be replaced
all at once, at whatever depth. -/
theorem Splices.flatten (splices : Splices choose good whole)
    (goodSingles : ∀ content, good (single content)) (alternatives : List (Alternative γ)) :
    whole (foldAll single choose alternatives) =
      whole ((singlesOfAll alternatives).map single) := by
  have none : ∀ d ∈ ([] : List δ), good d := nofun
  simpa using splice_foldAll splices goodSingles none alternatives []

end

end Alternative

namespace Parser

section

variable {s : σ} {ps later : List (Parser σ ω α)} {context last : Context ω} {journal : Journal}

/-- Parsers that fail one after the other, all on the same cursor. -/
inductive Fail (s : σ) : List (Parser σ ω α) → Context ω → Context ω → Journal → Prop where
  | nil (context : Context ω) : Fail s [] context context []
  | cons {p : Parser σ ω α} {later : List (Parser σ ω α)} {context middle last : Context ω}
      {failed : Failed σ} {journal further : Journal}
      (fails : p.parse s context = ⟨.failure failed, middle, journal⟩)
      (onward : Fail s later middle last further) :
      Fail s (p :: later) context last (journal ++ further)

/-- One of several parsers succeeds after those before it have failed; those after it are
not run. -/
inductive Hits (s : σ) : List (Parser σ ω α) → Context ω → Step ω (α × σ) → Prop where
  | after {earlier later : List (Parser σ ω α)} {p : Parser σ ω α}
      {context middle last : Context ω} {value : α} {rest : σ} {journal further : Journal}
      (skipped : Fail s earlier context middle journal)
      (succeeds : p.parse s middle = ⟨.success value rest, last, further⟩) :
      Hits s (earlier ++ p :: later) context ⟨(value, rest), last, journal ++ further⟩

/-- The search for a success goes past parsers that fail. -/
theorem Fail.firstSuccess_append (fail : Fail s ps context last journal)
    (later : List (Parser σ ω α)) :
    firstSuccess (ps ++ later) s context =
      let found := firstSuccess later s last
      ⟨found.value, found.context, journal ++ found.journal⟩ := by
  induction fail with
  | nil => rfl
  | cons fails _ ih =>
      simp only [List.cons_append, firstSuccess, Run.bind_apply, fails, ih, List.append_assoc]

theorem Fail.firstSuccess (fail : Fail s ps context last journal) :
    firstSuccess ps s context = ⟨none, last, journal⟩ := by
  have found := fail.firstSuccess_append []
  rw [List.append_nil] at found
  rw [found]
  simp only [Parser.firstSuccess, Run.pure_apply, List.append_nil]

/-- The search ends with the first success. -/
theorem Hits.firstSuccess {step : Step ω (α × σ)} (hits : Hits s ps context step) :
    firstSuccess ps s context = ⟨some step.value, step.context, step.journal⟩ := by
  cases hits with
  | after skipped succeeds =>
      rw [skipped.firstSuccess_append]
      simp only [Parser.firstSuccess, Run.bind_apply, succeeds, Run.pure_apply, List.append_nil]

theorem Hits.append {step : Step ω (α × σ)} (hits : Hits s ps context step)
    (later : List (Parser σ ω α)) : Hits s (ps ++ later) context step := by
  cases hits with
  | after skipped succeeds =>
      rw [List.append_assoc, List.cons_append]
      exact .after skipped succeeds

theorem Hits.cons {p : Parser σ ω α} {failed : Failed σ} {middle : Context ω}
    {step : Step ω (α × σ)} (fails : p.parse s context = ⟨.failure failed, middle, journal⟩)
    (hits : Hits s ps middle step) :
    Hits s (p :: ps) context ⟨step.value, step.context, journal ++ step.journal⟩ := by
  cases hits with
  | after skipped succeeds =>
      rw [← List.append_assoc, ← List.cons_append]
      exact .after (.cons fails skipped) succeeds

/-- Of several parsers either one succeeds first or all fail. -/
theorem hits_or_fail (ps : List (Parser σ ω α)) (s : σ) (context : Context ω) :
    (∃ step, Hits s ps context step) ∨ ∃ last journal, Fail s ps context last journal := by
  induction ps generalizing context with
  | nil => exact .inr ⟨_, _, .nil context⟩
  | cons p later ih =>
      rcases came : p.parse s context with ⟨outcome, middle, journal⟩
      cases outcome with
      | success value rest => exact .inl ⟨_, .after (.nil context) came⟩
      | failure failed =>
          rcases ih middle with ⟨step, hits⟩ | ⟨last, further, fail⟩
          · exact .inl ⟨_, hits.cons came⟩
          · exact .inr ⟨last, _, .cons came fail⟩

end

section

variable [Cursor σ ι ω]

/-- What a choice of parsers comes to. -/
structure ChoosesFirst (ps : List (Parser σ ω α)) : Prop where
  atEnd : ∀ {s : σ} {context : Context ω} {shared : ω},
    Cursor.atEnd s context.shared = (true, shared) →
      (firstOf ps).parse s context =
        ⟨.fail (firstOf ps).label "EOF" s, ⟨shared, context.depth⟩, []⟩
  /-- The first parser that succeeds decides. -/
  hits : ∀ {s : σ} {context : Context ω} {shared : ω} {step : Step ω (α × σ)},
    Cursor.atEnd s context.shared = (false, shared) →
      Hits s ps ⟨shared, context.depth⟩ step →
        (firstOf ps).parse s context =
          ⟨.success step.value.1 step.value.2, step.context, step.journal⟩
  /-- If all fail, what they report is dropped. -/
  fails : ∀ {s : σ} {context last : Context ω} {shared : ω} {journal : Journal},
    Cursor.atEnd s context.shared = (false, shared) →
      Fail s ps ⟨shared, context.depth⟩ last journal →
        (firstOf ps).parse s context =
          ⟨.fail (firstOf ps).label "no alternative matched" s, last, journal⟩
  /-- There is no third case. -/
  total : ∀ (s : σ) (context : Context ω),
    (∃ step, Hits s ps context step) ∨ ∃ last journal, Fail s ps context last journal

theorem choosesFirst (ps : List (Parser σ ω α)) : ChoosesFirst ps where
  atEnd ended := guarded_parse_atEnd ended
  hits {s context shared step} unread hits := by
    have found := hits.firstSuccess
    rw [firstOf, guarded_parse_unread unread]
    simp only [parse, Run.bind_apply, found, Run.pure_apply, List.append_nil]
    rfl
  fails {s context last shared journal} unread fail := by
    have found := fail.firstSuccess
    rw [firstOf, guarded_parse_unread unread]
    simp only [parse, Run.bind_apply, found, Run.pure_apply, List.append_nil]
    exact congrArg (Step.mk · last journal) (Outcome.relabel_fail _ _ s)
  total := hits_or_fail ps

end

/-- What was joined with a separator is joined with more as its parts would be. -/
theorem intercalate_splice (separator : String) (before : List String) {inner : List String}
    (nonempty : inner ≠ []) (after : List String) :
    separator.intercalate (before ++ separator.intercalate inner :: after) =
      separator.intercalate (before ++ inner ++ after) := by
  have front : separator.intercalate (separator.intercalate inner :: after) =
      separator.intercalate (inner ++ after) := by
    cases after with
    | nil => rw [String.intercalate_singleton, List.append_nil]
    | cons next later =>
        rw [String.intercalate_cons_of_ne_nil (List.cons_ne_nil _ _),
          String.intercalate_append_of_ne_nil nonempty (List.cons_ne_nil _ _)]
  cases before with
  | nil => exact front
  | cons first later =>
      have known : inner ++ after ≠ [] := List.append_ne_nil_of_left_ne_nil nonempty after
      rw [String.intercalate_append_of_ne_nil (List.cons_ne_nil _ _) (List.cons_ne_nil _ _),
        List.append_assoc,
        String.intercalate_append_of_ne_nil (List.cons_ne_nil _ _) known, front]

theorem choiceLabel_eq {labels : List String} (nonempty : labels ≠ []) :
    choiceLabel labels = String.intercalate " OR " labels := by
  simp only [choiceLabel, List.isEmpty_iff, nonempty, ↓reduceIte]

theorem choiceLabel_splice (before : List String) {inner : List String} (nonempty : inner ≠ [])
    (after : List String) :
    choiceLabel (before ++ choiceLabel inner :: after) =
      choiceLabel (before ++ inner ++ after) := by
  have nested : before ++ choiceLabel inner :: after ≠ [] :=
    List.append_ne_nil_of_right_ne_nil before (List.cons_ne_nil _ _)
  have flat : before ++ inner ++ after ≠ [] :=
    List.append_ne_nil_of_left_ne_nil (List.append_ne_nil_of_right_ne_nil before nonempty) after
  rw [choiceLabel_eq nested, choiceLabel_eq flat, choiceLabel_eq nonempty,
    intercalate_splice _ _ nonempty]

end Parser

/-- Something is left at a cursor, and asking changes nothing. -/
def Cursor.Unread [Cursor σ ι ω] (s : σ) (shared : ω) : Prop :=
  Cursor.atEnd s shared = (false, shared)

namespace Parser

variable [Cursor σ ι ω]

/-- What is left at a cursor stays there while the parser runs. -/
def KeepsUnread (p : Parser σ ω α) : Prop :=
  ∀ (s : σ) (context : Context ω), Cursor.Unread s context.shared →
    Cursor.Unread s (p.parse s context).context.shared

theorem Fail.keepsUnread {s : σ} {ps : List (Parser σ ω α)} {context last : Context ω}
    {journal : Journal} (fail : Fail s ps context last journal)
    (keeps : ∀ p ∈ ps, p.KeepsUnread) (unread : Cursor.Unread s context.shared) :
    Cursor.Unread s last.shared := by
  induction fail with
  | nil => exact unread
  | @cons p later context middle last failed journal further fails onward ih =>
      obtain ⟨first, others⟩ := List.forall_mem_cons.mp keeps
      have kept := first s context unread
      rw [fails] at kept
      exact ih others kept

/-- Where something is left, a choice in front of parsers is its alternatives in front of
them. -/
theorem firstSuccess_firstOf {s : σ} {context : Context ω}
    (unread : Cursor.Unread s context.shared) (inner after : List (Parser σ ω α)) :
    firstSuccess (firstOf inner :: after) s context = firstSuccess (inner ++ after) s context := by
  have chooses := choosesFirst inner
  rcases chooses.total s context with ⟨step, hits⟩ | ⟨last, journal, fail⟩
  · have first : Hits s ([] ++ [firstOf inner]) context
        ⟨step.value, step.context, [] ++ step.journal⟩ :=
      .after (.nil context) (chooses.hits unread hits)
    exact (first.append after).firstSuccess.trans (hits.append after).firstSuccess.symm
  · have first : Fail s [firstOf inner] context last (journal ++ []) :=
      .cons (chooses.fails unread fail) (.nil last)
    have nested := first.firstSuccess_append after
    rw [List.append_nil] at nested
    exact nested.trans (fail.firstSuccess_append after).symm

theorem firstSuccess_splice {s : σ} {before : List (Parser σ ω α)}
    (keeps : ∀ p ∈ before, p.KeepsUnread) {context : Context ω}
    (unread : Cursor.Unread s context.shared) (inner after : List (Parser σ ω α)) :
    firstSuccess (before ++ firstOf inner :: after) s context =
      firstSuccess (before ++ (inner ++ after)) s context := by
  rcases hits_or_fail before s context with ⟨step, hits⟩ | ⟨last, journal, fail⟩
  · exact (hits.append _).firstSuccess.trans (hits.append _).firstSuccess.symm
  · rw [fail.firstSuccess_append, fail.firstSuccess_append,
      firstSuccess_firstOf (fail.keepsUnread keeps unread)]

/-- A choice among the alternatives of a choice can be replaced by its own alternatives. -/
theorem firstOf_splices (steady : Cursor.Steady σ) :
    Alternative.Splices (firstOf : List (Parser σ ω α) → Parser σ ω α) KeepsUnread firstOf := by
  intro before inner after keeps nonempty
  let nested := before ++ firstOf inner :: after
  let flat := before ++ inner ++ after
  have label : choiceLabel (nested.map Parser.label) = choiceLabel (flat.map Parser.label) := by
    have labels : inner.map Parser.label ≠ [] := mt List.map_eq_nil_iff.mp nonempty
    simp only [nested, flat, List.map_append, List.map_cons]
    exact choiceLabel_splice _ labels _
  have run : (firstOf nested).run = (firstOf flat).run := by
    funext current s context
    rcases asked : Cursor.atEnd s context.shared with ⟨ended, shared⟩
    cases ended with
    | true => exact (guarded_run_atEnd asked).trans (guarded_run_atEnd asked).symm
    | false =>
        -- The outer guard has asked already, so the inner one is told the same.
        have unread : Cursor.Unread s shared := by
          have again := steady s context.shared
          rwa [asked] at again
        have found : firstSuccess nested s ⟨shared, context.depth⟩ =
            firstSuccess flat s ⟨shared, context.depth⟩ := by
          simp only [nested, flat, List.append_assoc]
          exact firstSuccess_splice keeps unread inner after
        rw [firstOf, firstOf, guarded_run_unread asked, guarded_run_unread asked]
        simp only [parse, Run.bind_apply, found, label]
  exact congrArg₂ Parser.mk label run

/-- Choices in a choice, nested to any depth, can be replaced by the single alternatives. -/
def ChoicesFlatten (p : γ → Parser σ ω α) : Prop :=
  ∀ alternatives : List (Alternative γ),
    firstOf (Alternative.foldAll p firstOf alternatives) =
      firstOf ((Alternative.singlesOfAll alternatives).map p)

theorem choicesFlatten (steady : Cursor.Steady σ) {p : γ → Parser σ ω α}
    (keeps : ∀ content, (p content).KeepsUnread) : ChoicesFlatten p :=
  fun alternatives => (firstOf_splices steady).flatten keeps alternatives

/-- Where cursors share nothing, nothing becomes of what they stand at. -/
theorem keepsUnread_of_subsingleton [Subsingleton ω] (p : Parser σ ω α) : p.KeepsUnread := by
  intro s context unread
  rwa [Subsingleton.elim (p.parse s context).context.shared context.shared]

end Parser

theorem TokenCursor.unread_iff {s : TokenCursor} {buffer : TokenBuffer} :
    Cursor.Unread s buffer ↔ s.index < buffer.tokens.size := by
  rw [Cursor.Unread, atEnd_eq, Prod.mk.injEq]
  constructor
  · rintro ⟨present, pulled⟩
    have held := buffer.getElem?_pull s.index
    rw [pulled] at held
    rw [← held, Option.isNone_eq_false_iff] at present
    simpa using present
  · intro held
    have pulled := TokenBuffer.pull_of_lt held
    refine ⟨?_, pulled⟩
    rw [← buffer.getElem?_pull, pulled]
    simp [held]

/-- A parser that does nothing to a buffer but pull tokens. -/
def Parser.OnlyPulls (p : Parser TokenCursor TokenBuffer α) : Prop :=
  ∀ (s : TokenCursor) (context : Context TokenBuffer),
    context.shared.Extends (p.parse s context).context.shared

theorem Parser.OnlyPulls.keepsUnread {p : Parser TokenCursor TokenBuffer α}
    (pulls : p.OnlyPulls) : p.KeepsUnread := by
  intro s context unread
  rw [TokenCursor.unread_iff] at unread ⊢
  exact unread.trans_le (pulls s context).grown

theorem Grammar.build_onlyPulls (rules : Rules String TextLeaf)
    (grammar : Grammar String TextLeaf) (levels : Nat) :
    (grammar.build (rules.scope levels : Scope TokenCursor TokenBuffer) none).value.OnlyPulls := by
  intro s context
  have self := Congruence.scoped_self Congruence.frugal_observing
    Congruence.frugal_symbolic.leafwise rules levels grammar
  exact (self.parse s).2.extending context

namespace Grammar

theorem depthLimitOfAll_append (first second : List (Grammar ι κ)) :
    depthLimitOfAll (first ++ second) = max (depthLimitOfAll first) (depthLimitOfAll second) := by
  induction first with
  | nil => simp [depthLimitOfAll]
  | cons p later ih => rw [List.cons_append, depthLimitOfAll, depthLimitOfAll, ih, Nat.max_assoc]

variable [Cursor σ ι ω] [Item ι] [Leaves κ σ ω]

theorem build_firstOf (scope : Scope σ ω) (alternatives : List (Grammar ι κ)) :
    (firstOf alternatives).build scope none =
      ⟨Parser.firstOf (buildAll scope alternatives).value,
        (buildAll scope alternatives).journal⟩ := by
  rw [build]
  exact congrArg (Logged.mk _) (List.append_nil _)

theorem buildAll_value (scope : Scope σ ω) (alternatives : List (Grammar ι κ)) :
    (buildAll scope alternatives).value =
      alternatives.map fun grammar => (grammar.build scope none).value := by
  induction alternatives with
  | nil => rw [buildAll]; rfl
  | cons p later ih => simp only [buildAll, Logged.value_bind, Logged.value_pure, ih, List.map_cons]

theorem buildAll_journal (scope : Scope σ ω) (alternatives : List (Grammar ι κ)) :
    (buildAll scope alternatives).journal =
      alternatives.flatMap fun grammar => (grammar.build scope none).journal := by
  induction alternatives with
  | nil => rw [buildAll]; rfl
  | cons p later ih =>
      simp only [buildAll, Logged.journal_bind, Logged.journal_pure, List.append_nil, ih,
        List.flatMap_cons]

/-- A choice among the alternatives of a choice can be replaced by its own alternatives. -/
theorem parser_splices (steady : Cursor.Steady σ) {rules : Rules ι κ}
    (keeps : ∀ (grammar : Grammar ι κ) (levels : Nat),
      (grammar.build (rules.scope levels : Scope σ ω) none).value.KeepsUnread) :
    Alternative.Splices firstOf (fun _ => True) fun alternatives : List (Grammar ι κ) =>
      ((firstOf alternatives).parser rules : Logged (Parser σ ω Value)) := by
  intro before inner after _ nonempty
  have level : levels rules (firstOf (before ++ firstOf inner :: after)) =
      levels rules (firstOf (before ++ inner ++ after)) := by
    simp only [levels, depthLimit, depthLimitOfAll_append, depthLimitOfAll, Nat.max_assoc]
  let scope : Scope σ ω := rules.scope (levels rules (firstOf (before ++ inner ++ after)))
  let built (grammar : Grammar ι κ) : Parser σ ω Value := (grammar.build scope none).value
  have value : Parser.firstOf (buildAll scope (before ++ firstOf inner :: after)).value =
      Parser.firstOf (buildAll scope (before ++ inner ++ after)).value := by
    have choice : built (firstOf inner) = Parser.firstOf (inner.map built) := by
      simp only [built, build_firstOf, buildAll_value]
    have keepsBefore : ∀ p ∈ before.map built, p.KeepsUnread := by
      intro p member
      obtain ⟨grammar, _, rfl⟩ := List.mem_map.mp member
      exact keeps grammar _
    have known : inner.map built ≠ [] := mt List.map_eq_nil_iff.mp nonempty
    have spliced := Parser.firstOf_splices steady _ _ (after.map built) keepsBefore known
    rw [buildAll_value, buildAll_value, List.map_append, List.map_cons, List.map_append,
      List.map_append]
    rw [← choice] at spliced
    exact spliced
  have journal : (buildAll scope (before ++ firstOf inner :: after)).journal =
      (buildAll scope (before ++ inner ++ after)).journal := by
    simp only [buildAll_journal, List.flatMap_append, List.flatMap_cons, build_firstOf,
      List.append_assoc]
  change ((firstOf _).build _ none : Logged (Parser σ ω Value)) = (firstOf _).build scope none
  rw [level, build_firstOf, build_firstOf]
  exact congrArg₂ Logged.mk value journal

/-- Choices in a choice of grammars, nested to any depth, can be replaced by the single
alternatives: the parsers are equal, and so is what is written while they are built. -/
def ChoicesFlatten (σ : Type) {ω : Type} [Cursor σ ι ω] [Leaves κ σ ω] (rules : Rules ι κ) :
    Prop :=
  ∀ alternatives : List (Alternative (Grammar ι κ)),
    ((firstOf (Alternative.foldAll id firstOf alternatives)).parser rules :
        Logged (Parser σ ω Value)) =
      (firstOf (Alternative.singlesOfAll alternatives)).parser rules

theorem choicesFlatten (steady : Cursor.Steady σ) {rules : Rules ι κ}
    (keeps : ∀ (grammar : Grammar ι κ) (levels : Nat),
      (grammar.build (rules.scope levels : Scope σ ω) none).value.KeepsUnread) :
    ChoicesFlatten σ rules := by
  intro alternatives
  have flattened : ((firstOf (Alternative.foldAll id firstOf alternatives)).parser rules :
        Logged (Parser σ ω Value)) =
      (firstOf ((Alternative.singlesOfAll alternatives).map id)).parser rules :=
    (parser_splices steady keeps).flatten (fun _ => trivial) alternatives
  rwa [List.map_id] at flattened

end Grammar

/-- A choice that has choices among its alternatives, to any depth, is the choice of all the
single alternatives: it has the same label, and runs to the same outcome and journal on every
cursor.  Each alternative runs on the cursor that the choice was given, and none after the
first that succeeds. -/
theorem nested_choices_flatten :
    (∀ {γ α : Type} (p : γ → Parser TextCursor Unit α), Parser.ChoicesFlatten p) ∧
      (∀ {γ α : Type} (p : γ → Parser TokenCursor TokenBuffer α),
        (∀ content, (p content).OnlyPulls) → Parser.ChoicesFlatten p) ∧
      (∀ {ι γ α : Type} (p : γ → Parser (SliceCursor ι) Unit α), Parser.ChoicesFlatten p) ∧
      (∀ rules : Rules String TextLeaf,
        Grammar.ChoicesFlatten TextCursor rules ∧ Grammar.ChoicesFlatten TokenCursor rules) ∧
      (∀ (ι : Type) [Item ι] (rules : Rules ι Empty),
        Grammar.ChoicesFlatten (SliceCursor ι) rules) ∧
      ∀ {σ ι ω α : Type} [Cursor σ ι ω] (ps : List (Parser σ ω α)), Parser.ChoosesFirst ps := by
  refine ⟨?_, ?_, ?_, ?_, ?_, ?_⟩
  · intro γ α p
    exact Parser.choicesFlatten TextCursor.steady fun _ => Parser.keepsUnread_of_subsingleton _
  · intro γ α p pulls
    exact Parser.choicesFlatten TokenCursor.steady fun content => (pulls content).keepsUnread
  · intro ι γ α p
    exact Parser.choicesFlatten SliceCursor.steady fun _ => Parser.keepsUnread_of_subsingleton _
  · intro rules
    refine ⟨?_, ?_⟩
    · exact Grammar.choicesFlatten TextCursor.steady fun _ _ =>
        Parser.keepsUnread_of_subsingleton _
    · exact Grammar.choicesFlatten TokenCursor.steady fun grammar levels =>
        (grammar.build_onlyPulls rules levels).keepsUnread
  · intro ι _ rules
    exact Grammar.choicesFlatten SliceCursor.steady fun _ _ =>
      Parser.keepsUnread_of_subsingleton _
  · intro σ ι ω α _ ps
    exact Parser.choosesFirst ps

/-- Four words, two of them in a choice in a choice. -/
theorem nested_choices_flatten_words :
    let words : List (Alternative String) :=
      [.choice (.single "x") [.choice (.single "y") [.single "b"]], .single "z"]
    let nested : Parser TokenCursor TokenBuffer String :=
      .firstOf (Alternative.foldAll .exact .firstOf words)
    nested = .firstOf (["x", "y", "b", "z"].map .exact) ∧
      nested.label = "EXACT \"x\" OR EXACT \"y\" OR EXACT \"b\" OR EXACT \"z\"" ∧
      (nested.parse .start ⟨.start [some "b"], 0⟩).value = .success "b" ⟨1, false⟩ := by
  intro words nested
  have pulls : ∀ word, (Parser.exact word : Parser TokenCursor TokenBuffer String).OnlyPulls :=
    fun word s context =>
      ((Congruence.Parsers.exact word).parses.parse s : Congruence.frugal.Runs _ _).2.extending
        context
  exact ⟨nested_choices_flatten.2.1 .exact pulls words, rfl, rfl⟩

end Descent
