import Descent.Proofs.Brackets
import Descent.Proofs.Clones

/-!
# The count of open deferred parsers

Every run of a deferred parser that is opened is closed again, on success and on
failure alike.  So the count that a parse hands on is the one it was given, each
deferred parser sees how many are really open, and what a sequence of parses has done
before shows in none of the later ones.
-/

namespace Descent

/-- Every cursor and every shared state corresponds to itself, and journals are nested
brackets. -/
def Correspondence.counted (σ : Type) {ι ω : Type} [Cursor σ ι ω] : Correspondence σ σ :=
  Invariant.none.diagonal .counting fun _ => rfl

variable {σ ι κ ω α : Type} [Cursor σ ι ω]

/-- Runs that correspond come to the same, and hand on the count they were given. -/
theorem Correspondence.counted_eq {floor : Nat} {first second : Run ω (Outcome σ α)}
    (runs : (counted σ).Runs floor (counted σ).Outcomes first second) (context : Context ω)
    (above : floor ≤ context.depth) :
    first context = second context ∧ (first context).context.depth = context.depth := by
  have ends := runs context.depth above context.shared context.shared ⟨rfl, trivial⟩
  have outcomes : (first context).value = (second context).value :=
    (ends.value.mono fun there => there.1).eq
  have depths := ends.firstDepth.trans ends.secondDepth.symm
  have contexts : (first context).context = (second context).context := by
    rw [← Context.of_depth depths, ends.shared.1]
  have journals : (first context).journal = (second context).journal := ends.journal.1
  have steps : first context = second context := calc
    first context
        = ⟨(first context).value, (first context).context, (first context).journal⟩ := rfl
    _ = ⟨(second context).value, (second context).context, (second context).journal⟩ := by
      rw [outcomes, contexts, journals]
    _ = second context := rfl
  exact ⟨steps, ends.firstDepth⟩

variable [Item ι] [Leaves κ σ ω]

/-- A parse hands on the count it was given, and its journal is nested brackets. -/
theorem Grammar.parse_counts (leaves : (Correspondence.counted σ).Leafwise κ)
    (rules : Rules ι κ) (grammar : Grammar ι κ) (s : σ) (context : Context ω) :
    (grammar.parse rules s context).context.depth = context.depth ∧
      Journal.Bracketed context.depth (grammar.parse rules s context).journal := by
  have runs := Invariant.runs leaves rules grammar (s := s) trivial
  have ends := runs context.depth (Nat.zero_le _) context.shared context.shared ⟨rfl, trivial⟩
  exact ⟨ends.firstDepth, ends.journal.2⟩

theorem Grammar.rule_parser (rules : Rules ι κ) (target : String) :
    ((Grammar.rule target : Grammar ι κ).parser rules : Logged (Parser σ ω Value)) =
      (rules.scope rules.depthLimit).inPlace target := by
  have levels : Grammar.levels rules (.rule target) = rules.depthLimit := by
    rw [Grammar.levels, Grammar.depthLimit, Nat.zero_max]
  rw [Grammar.parser, levels]
  calc (Grammar.rule target).build (rules.scope rules.depthLimit) none
      = ⟨((rules.scope rules.depthLimit).inPlace target).value,
          ((rules.scope rules.depthLimit).inPlace target).journal ++ []⟩ := by
        rw [Grammar.build]
        rfl
    _ = (rules.scope rules.depthLimit).inPlace target := by rw [List.append_nil]

/-- As long as the levels cover what the rules can still open, the number of levels does
not show. -/
theorem Rules.inPlace_alike (leaves : (Correspondence.counted σ).Leafwise κ)
    (rules : Rules ι κ) (target : String) {floor levels : Nat}
    (enough : rules.depthLimit ≤ floor + levels) :
    Logged.Alike ((Correspondence.counted σ).Parsers floor)
      ((rules.scope levels).inPlace target) ((Grammar.rule target).parser rules) := by
  have fits : (Correspondence.counted σ).Fits rules.depthLimit rules.parts :=
    .of_rules (fun part _ => .of_all (fun _ => trivial) trivial part) (Nat.le_refl _)
  rw [Grammar.rule_parser]
  exact (Correspondence.scopes_alike leaves fits enough (Nat.le_add_left _ _)).inPlace target

namespace Grammar

variable {rules : Rules ι κ} {label target : String} {limits : Limits} {name : Option String}
  {levels : Nat} {s : σ} {context : Context ω}

theorem deferred_parse (scope : Scope σ ω) :
    ((Grammar.deferred label target limits : Grammar ι κ).build scope name).value.parse s =
      (Parser.deferred label limits.maxRecursionDepth fun _ => scope.deferred target).run
        (name.getD label) s := by
  rw [Grammar.build]
  cases name <;> rfl

/-- With fewer open than its limit, a deferred part opens, does what its rule does in
place, and closes. -/
theorem deferred_parse_open (leaves : (Correspondence.counted σ).Leafwise κ)
    (enough : max limits.maxRecursionDepth rules.depthLimit ≤ context.depth + levels)
    (room : context.depth < limits.maxRecursionDepth) :
    ((Grammar.deferred label target limits : Grammar ι κ).build
        (rules.scope levels) name).value.parse s context =
      let inner := (Grammar.rule target : Grammar ι κ).parse rules s
        { context with depth := context.depth + 1 }
      ⟨inner.value, { inner.context with depth := context.depth },
        .entered (name.getD label) context.depth ::
          (inner.journal ++ [.exited (name.getD label)])⟩ := by
  cases levels with
  | zero => omega
  | succ levels =>
      have within : rules.depthLimit ≤ context.depth + 1 + levels := by omega
      have alike := Rules.inPlace_alike leaves rules target within
      have runs := alike.value.parse (s := s) (t := s) ⟨rfl, trivial⟩
      obtain ⟨same, closed⟩ := Correspondence.counted_eq runs
        ⟨context.shared, context.depth + 1⟩ (Nat.le_refl _)
      have unfolded : (rules.scope (levels + 1) : Scope σ ω).deferred target =
          (rules.scope levels).inPlace target := rfl
      rw [same] at closed
      rw [deferred_parse, Parser.deferred_run_open room]
      simp only [parse_apply, unfolded, same, alike.journal, closed, Nat.add_sub_cancel]

theorem deferred_parse_full (scope : Scope σ ω) (full : limits.maxRecursionDepth ≤ context.depth) :
    ((Grammar.deferred label target limits : Grammar ι κ).build scope name).value.parse s
        context =
      ⟨.failure ⟨"recursion limit exceeded",
          if name.getD label = "" then [] else [name.getD label], s⟩,
        context,
        [.warning (.tooDeep (name.getD label) limits.maxRecursionDepth context.depth
          (Cursor.position s))]⟩ := by
  rw [deferred_parse, Parser.deferred_run_full full, Outcome.fail_eq]

end Grammar

/-- What every deferred part does in a parse of a grammar after so many have been opened
in it, under whatever name: with fewer open than its limit it opens and does what its rule
does in place; otherwise it fails where it stands, under its own label, with one warning. -/
structure Grammar.Guarded (σ : Type) {ι κ ω : Type} [Cursor σ ι ω] [Item ι] [Leaves κ σ ω]
    (rules : Rules ι κ) (grammar : Grammar ι κ) : Prop where
  opens : ∀ {label target : String} {limits : Limits},
    Grammar.deferred label target limits ∈ grammar.parts ++ rules.parts →
    ∀ (name : Option String) (opened : Nat) (s : σ) (context : Context ω),
      opened ≤ context.depth → context.depth < limits.maxRecursionDepth →
      ((Grammar.deferred label target limits : Grammar ι κ).build
          (rules.scope (Grammar.levels rules grammar - opened)) name).value.parse s context =
        let inner := (Grammar.rule target : Grammar ι κ).parse rules s
          { context with depth := context.depth + 1 }
        ⟨inner.value, { inner.context with depth := context.depth },
          .entered (name.getD label) context.depth ::
            (inner.journal ++ [.exited (name.getD label)])⟩
  refuses : ∀ {label target : String} {limits : Limits},
    Grammar.deferred label target limits ∈ grammar.parts ++ rules.parts →
    ∀ (name : Option String) (opened : Nat) (s : σ) (context : Context ω),
      opened ≤ context.depth → limits.maxRecursionDepth ≤ context.depth →
      ((Grammar.deferred label target limits : Grammar ι κ).build
          (rules.scope (Grammar.levels rules grammar - opened)) name).value.parse s context =
        ⟨.failure ⟨"recursion limit exceeded",
            if name.getD label = "" then [] else [name.getD label], s⟩,
          context,
          [.warning (.tooDeep (name.getD label) limits.maxRecursionDepth context.depth
            (Cursor.position s))]⟩

theorem Grammar.guarded (leaves : (Correspondence.counted σ).Leafwise κ) (rules : Rules ι κ)
    (grammar : Grammar ι κ) : grammar.Guarded σ rules where
  opens {label target limits} member name opened s context within room := by
    have covered := Grammar.le_levels member
    rw [Grammar.depthLimit] at covered
    have enough : max limits.maxRecursionDepth rules.depthLimit ≤
        context.depth + (Grammar.levels rules grammar - opened) := by omega
    exact Grammar.deferred_parse_open leaves enough room
  refuses _ _ _ _ _ _ full := Grammar.deferred_parse_full _ full

theorem Correspondence.counted_leafwise {σ ω : Type} [SymbolCursor σ ω] :
    (counted σ).Leafwise TextLeaf :=
  Invariant.leafwise fun _ _ _ _ => ⟨trivial, fun _ _ => trivial⟩

/-- What the parses on one thread hand on: how many deferred parsers are open, and the
buffers of numbered token inputs. -/
structure Thread where
  depth : Nat
  buffers : Nat → TokenBuffer

/-- A parse of any kind of input; tokens come from a numbered input. -/
inductive Job : Type 1 where
  | text (rules : Rules String TextLeaf) (grammar : Grammar String TextLeaf) (s : TextCursor)
  | tokens (rules : Rules String TextLeaf) (grammar : Grammar String TextLeaf) (input : Nat)
      (s : TokenCursor)
  | slice {ι : Type} [Item ι] (rules : Rules ι Empty) (grammar : Grammar ι Empty)
      (s : SliceCursor ι)

structure Turn (σ : Type) where
  outcome : Outcome σ Value
  journal : Journal
  thread : Thread

namespace Job

def Place : Job → Type
  | text _ _ _ => TextCursor
  | tokens _ _ _ _ => TokenCursor
  | @slice ι _ _ _ _ => SliceCursor ι

def run : (job : Job) → Thread → Turn job.Place
  | text rules grammar s, thread =>
      let step := grammar.parse rules s ⟨(), thread.depth⟩
      ⟨step.value, step.journal, { thread with depth := step.context.depth }⟩
  | tokens rules grammar input s, thread =>
      let step := grammar.parse rules s ⟨thread.buffers input, thread.depth⟩
      ⟨step.value, step.journal, step.context.depth,
        fun other => if other = input then step.context.shared else thread.buffers other⟩
  | slice rules grammar s, thread =>
      let step := grammar.parse rules s ⟨(), thread.depth⟩
      ⟨step.value, step.journal, { thread with depth := step.context.depth }⟩

/-- A turn is one parse of the grammar of a job, which starts with the count of a thread. -/
structure Parses {σ ω : Type} (parse : Run ω (Outcome σ Value)) (shared : ω) (thread : Thread)
    (turn : Turn σ) : Prop where
  outcome : turn.outcome = (parse ⟨shared, thread.depth⟩).value
  journal : turn.journal = (parse ⟨shared, thread.depth⟩).journal
  depth : turn.thread.depth = (parse ⟨shared, thread.depth⟩).context.depth

/-- A turn is the parse of a job, in which every deferred part goes by the count. -/
def Guards : (job : Job) → Thread → Turn job.Place → Prop
  | text rules grammar s, thread, turn =>
      Parses (grammar.parse rules s) () thread turn ∧ grammar.Guarded TextCursor rules
  | tokens rules grammar input s, thread, turn =>
      Parses (grammar.parse rules s) (thread.buffers input) thread turn ∧
        grammar.Guarded TokenCursor rules
  | @slice ι _ rules grammar s, thread, turn =>
      Parses (grammar.parse rules s) () thread turn ∧ grammar.Guarded (SliceCursor ι) rules

theorem run_guards (job : Job) (thread : Thread) : job.Guards thread (job.run thread) := by
  cases job with
  | text rules grammar s =>
      exact ⟨⟨rfl, rfl, rfl⟩, grammar.guarded Correspondence.counted_leafwise rules⟩
  | tokens rules grammar input s =>
      exact ⟨⟨rfl, rfl, rfl⟩, grammar.guarded Correspondence.counted_leafwise rules⟩
  | slice rules grammar s =>
      exact ⟨⟨rfl, rfl, rfl⟩, grammar.guarded Correspondence.leafwise_empty rules⟩

theorem run_counts (job : Job) (thread : Thread) :
    (job.run thread).thread.depth = thread.depth ∧
      Journal.Bracketed thread.depth (job.run thread).journal := by
  cases job with
  | text rules grammar s => exact grammar.parse_counts Correspondence.counted_leafwise rules s _
  | tokens rules grammar _ s =>
      exact grammar.parse_counts Correspondence.counted_leafwise rules s _
  | slice rules grammar s => exact grammar.parse_counts Correspondence.leafwise_empty rules s _

theorem run_contents (job : Job) (thread : Thread) (input : Nat) :
    ((job.run thread).thread.buffers input).contents = (thread.buffers input).contents := by
  cases job with
  | text | slice => rfl
  | tokens rules grammar own s =>
      simp only [run]
      by_cases same : input = own
      · subst same
        rw [if_pos rfl]
        exact (TokenCursor.parse_keeps rules grammar s _).2
      · rw [if_neg same]

theorem run_congr (job : Job) {first second : Thread} (depth : first.depth = second.depth)
    (contents : ∀ input, (first.buffers input).contents = (second.buffers input).contents) :
    (job.run first).outcome = (job.run second).outcome ∧
      (job.run first).journal = (job.run second).journal := by
  cases job with
  | text | slice =>
      obtain ⟨count, buffers⟩ := first
      obtain ⟨count', buffers'⟩ := second
      change count = count' at depth
      rw [depth]
      exact ⟨rfl, rfl⟩
  | tokens rules grammar input s =>
      exact TokenCursor.parse_of_contents rules grammar s depth (contents input)

end Job

namespace Thread

def after (thread : Thread) (jobs : List Job) : Thread :=
  jobs.foldl (fun thread job => (job.run thread).thread) thread

theorem after_depth (thread : Thread) (jobs : List Job) :
    (thread.after jobs).depth = thread.depth := by
  induction jobs generalizing thread with
  | nil => rfl
  | cons job later ih => exact (ih _).trans (job.run_counts thread).1

theorem after_contents (thread : Thread) (jobs : List Job) (input : Nat) :
    ((thread.after jobs).buffers input).contents = (thread.buffers input).contents := by
  induction jobs generalizing thread with
  | nil => rfl
  | cons job later ih => exact (ih _).trans (job.run_contents thread input)

/-- Whatever has been parsed before on a thread, a parse finds the count as it was, hands
it on unchanged and tells it rightly at every entry; deferred parts go by it; and the
parse comes to what it would have come to as the first one. -/
theorem parse_counts_open (thread : Thread) (earlier : List Job) (job : Job) :
    let turn := job.run (thread.after earlier)
    (thread.after earlier).depth = thread.depth ∧
      turn.thread.depth = thread.depth ∧
      Journal.Bracketed thread.depth turn.journal ∧
      (∀ before event later, turn.journal = before ++ event :: later →
        event.Tells (thread.depth + Journal.opening before)) ∧
      job.Guards (thread.after earlier) turn ∧
      turn.outcome = (job.run thread).outcome ∧
      turn.journal = (job.run thread).journal := by
  have handed := thread.after_depth earlier
  obtain ⟨restored, bracketed⟩ := job.run_counts (thread.after earlier)
  have alike := job.run_congr handed (thread.after_contents earlier)
  rw [handed] at restored bracketed
  refine ⟨handed, restored, bracketed, ?_, job.run_guards _, alike⟩
  intro before event later split
  exact bracketed.tells split

end Thread

end Descent
