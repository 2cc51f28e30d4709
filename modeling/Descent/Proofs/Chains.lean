import Descent.Proofs.LabelStacks

/-!
# Chains run from left to right

A chain wraps each parser that it has come to into the next one, and every wrapping gives
its own label to the failures of what is inside.  Still a chain is one run from left to right:
its operands are run in order, each where the one before came to rest, and the first failure
decides.  It is put under the labels of the operands' steps from there on.
-/

namespace Descent

variable {σ ι κ ω α β γ δ : Type}

/-- A stack with further labels on top, without empty ones and repeated neighbours. -/
def stacked (stack labels : List String) : List String :=
  stack ++ ((labels.filter (· ≠ "")).destutter' (· ≠ ·) (stack.getLast?.getD "")).tail

/-- The same failure at the same place, under further labels. -/
def Failed.under (failed : Failed σ) (labels : List String) : Failed σ :=
  { failed with expected := stacked failed.expected labels }

theorem cons_tail_destutter' (first : String) (labels : List String) :
    first :: (labels.destutter' (· ≠ ·) first).tail = labels.destutter' (· ≠ ·) first := by
  induction labels with
  | nil => rfl
  | cons label later ih =>
      by_cases same : first = label
      · rw [List.destutter'_cons_neg _ (not_not.mpr same), ih]
      · rw [List.destutter'_cons_pos _ same, List.tail_cons]

theorem Failed.under_nil (failed : Failed σ) : failed.under [] = failed := by
  simp [under, stacked]

theorem Failed.under_cons (failed : Failed σ) (label : String) (labels : List String) :
    failed.under (label :: labels) = (failed.relabel label).under labels := by
  obtain ⟨reason, stack, place⟩ := failed
  by_cases unnamed : label = ""
  · simp [unnamed, under, stacked]
  have kept : (label :: labels).filter (· ≠ "") = label :: labels.filter (· ≠ "") := by
    simp [unnamed]
  by_cases last : stack.getLast?.getD "" = label
  · have same : Failed.relabel ⟨reason, stack, place⟩ label = ⟨reason, stack, place⟩ :=
      if_pos (.inr last)
    have dropped := List.destutter'_cons_neg (R := (· ≠ ·)) (labels.filter (· ≠ ""))
      (not_not.mpr last)
    rw [same]
    simp only [under, stacked, kept, dropped]
  · have recorded : Failed.relabel ⟨reason, stack, place⟩ label =
        ⟨reason, stack ++ [label], place⟩ := if_neg (not_or.mpr ⟨unnamed, last⟩)
    have onward := List.destutter'_cons_pos (R := (· ≠ ·)) (labels.filter (· ≠ "")) last
    rw [recorded]
    simp only [under, stacked, kept, onward, List.tail_cons, List.getLast?_concat,
      Option.getD_some, List.append_assoc, List.singleton_append, cons_tail_destutter']

/-- A new failure reported under a label, and then under further ones. -/
theorem Failed.under_report (label reason : String) (place : σ) (labels : List String) :
    (Failed.report label reason place).under labels =
      (⟨reason, [], place⟩ : Failed σ).under (label :: labels) :=
  (under_cons _ _ _).symm

theorem Failed.under_labelStack (reason : String) (labels : List String) (place : σ)
    (later : List String) :
    (⟨reason, labelStack labels, place⟩ : Failed σ).under later =
      ⟨reason, labelStack (labels ++ later), place⟩ := by
  induction later generalizing labels with
  | nil => rw [under_nil, List.append_nil]
  | cons label later ih =>
      rw [under_cons, relabel_labelStack, ih, List.append_assoc, List.singleton_append]

theorem labelStack_of_canonical {failed : Failed σ} (canonical : failed.Canonical) :
    labelStack failed.expected = failed.expected := by
  have named : failed.expected.filter (· ≠ "") = failed.expected := by
    rw [List.filter_eq_self]
    intro label member
    simpa using ne_of_mem_of_not_mem member canonical.named
  rw [labelStack, named, List.destutter_of_isChain _ _ canonical.distinct]

theorem Failed.expected_under {failed : Failed σ} (canonical : failed.Canonical)
    (labels : List String) :
    (failed.under labels).expected = labelStack (failed.expected ++ labels) := by
  obtain ⟨reason, stack, place⟩ := failed
  have same := labelStack_of_canonical canonical
  have under := Failed.under_labelStack reason stack place labels
  dsimp only at same
  rw [same] at under
  rw [under]

/-- How the value so far and the value of a further parser are joined. -/
inductive Join (α β : Type) : Type → Type where
  | both : Join α β (α × β)
  | keepFirst : Join α β α
  | keepSecond : Join α β β

namespace Join

def combine : Join α β δ → α → β → δ
  | both => Prod.mk
  | keepFirst => fun first _ => first
  | keepSecond => fun _ second => second

/-- The structural label after a further parser. -/
def label : Join α β δ → String → String → String
  | both, first, second => first ++ " AND " ++ second
  | keepFirst, first, _ => first
  | keepSecond, _, second => second

def apply : Join α β δ → Parser σ ω α → Parser σ ω β → Parser σ ω δ
  | both, p, q => p.both q
  | keepFirst, p, q => p.keepFirst q
  | keepSecond, p, q => p.keepSecond q

theorem label_apply (join : Join α β δ) (p : Parser σ ω α) (q : Parser σ ω β) :
    (join.apply p q).label = join.label p.label q.label := by
  cases join <;> rfl

theorem parse_apply (join : Join α β δ) (p : Parser σ ω α) (q : Parser σ ω β) (s : σ) :
    (join.apply p q).parse s =
      Parser.runBoth (join.label p.label q.label) join.combine p q s := by
  cases join <;> rfl

end Join

/-- The steps of a chain, from a value of one type to a value of another one. -/
inductive Chain (σ ω γ : Type) : Type → Type 1 where
  | done : Chain σ ω γ γ
  | join {α β δ : Type} (how : Join α β δ) (q : Parser σ ω β) (later : Chain σ ω γ δ) :
      Chain σ ω γ α
  | map {α β : Type} (f : α → β) (later : Chain σ ω γ β) : Chain σ ω γ α
  | tryMap {α β ε : Type} (f : α → Except ε β) (message : ε → String) (later : Chain σ ω γ β) :
      Chain σ ω γ α
  | copy {α : Type} (later : Chain σ ω γ α) : Chain σ ω γ α

namespace Chain

/-- The parser that a parser comes to after the steps of a chain. -/
def after {α : Type} : Chain σ ω γ α → Parser σ ω α → Parser σ ω γ
  | done, p => p
  | join how q later, p => later.after (how.apply p q)
  | map f later, p => later.after (p.map f)
  | tryMap f message later, p => later.after (p.tryMap f message)
  | copy later, p => later.after p

/-- The structural label that a label comes to after the steps of a chain. -/
def label {α : Type} : Chain σ ω γ α → String → String
  | done, label => label
  | join how q later, label => later.label (how.label label q.label)
  | map _ later, label | tryMap _ _ later, label | copy later, label => later.label label

/-- The structural labels after the steps with operands, in order. -/
def labels {α : Type} : Chain σ ω γ α → String → List String
  | done, _ => []
  | join how q later, label =>
      how.label label q.label :: later.labels (how.label label q.label)
  | map _ later, label | tryMap _ _ later, label | copy later, label => later.labels label

/-- Goes on with the value so far, at the place where the last parser came to rest. -/
def goOn {α : Type} (start : σ) : Chain σ ω γ α → String → α → σ → Run ω (Outcome σ γ)
  | done, _, value, s => return .success value s
  | join how q later, label, value, s => do
      let after := how.label label q.label
      match ← q.parse s with
      | .failure failed => return .failure (failed.under (after :: later.labels after))
      | .success next rest => later.goOn start after (how.combine value next) rest
  | map f later, label, value, s => later.goOn start label (f value) s
  | tryMap f message later, label, value, s =>
      match f value with
      | .error error =>
          return .failure (Failed.under ⟨message error, [], start⟩ (label :: later.labels label))
      | .ok result => later.goOn start label result s
  | copy later, label, value, s => later.goOn start label value s

/-- The run of a chain from left to right. -/
def walk {α : Type} (chain : Chain σ ω γ α) (p : Parser σ ω α) (s : σ) :
    Run ω (Outcome σ γ) := do
  match ← p.parse s with
  | .failure failed => return .failure (failed.under (chain.labels p.label))
  | .success value rest => chain.goOn s p.label value rest

theorem label_after {α : Type} (chain : Chain σ ω γ α) (p : Parser σ ω α) :
    (chain.after p).label = chain.label p.label := by
  induction chain with
  | done => rfl
  | join how q later ih => rw [after, label, ih, Join.label_apply]
  | map _ later ih | tryMap _ _ later ih | copy later ih => exact ih _

section

variable {α : Type} {p : Parser σ ω α} {s rest : σ} {context middle : Context ω}
  {journal : Journal}

theorem walk_failure (chain : Chain σ ω γ α) {failed : Failed σ}
    (came : p.parse s context = ⟨.failure failed, middle, journal⟩) :
    chain.walk p s context =
      ⟨.failure (failed.under (chain.labels p.label)), middle, journal⟩ := by
  simp only [walk, Run.bind_apply, came, Run.pure_apply, List.append_nil]

theorem walk_success (chain : Chain σ ω γ α) {value : α}
    (came : p.parse s context = ⟨.success value rest, middle, journal⟩) :
    chain.walk p s context =
      let later := chain.goOn s p.label value rest middle
      ⟨later.value, later.context, journal ++ later.journal⟩ := by
  simp only [walk, Run.bind_apply, came]

/-- A step with an operand: what is inside fails, the operand fails, or the chain goes on. -/
theorem walk_join (how : Join α β δ) (q : Parser σ ω β) (later : Chain σ ω γ δ)
    (p : Parser σ ω α) (s : σ) :
    later.walk (how.apply p q) s = (join how q later).walk p s := by
  funext context
  rcases came : p.parse s context with ⟨outcome, middle, journal⟩
  cases outcome with
  | failure failed =>
      have whole : (how.apply p q).parse s context =
          ⟨.failure (failed.relabel (how.label p.label q.label)), middle, journal⟩ := by
        simp only [Join.parse_apply, Parser.runBoth, Run.bind_apply, came, Run.pure_apply,
          List.append_nil]
      rw [walk_failure _ whole, walk_failure _ came, Join.label_apply, labels, Failed.under_cons]
  | success value rest =>
      rw [walk_success _ came, goOn]
      rcases next : q.parse rest middle with ⟨outcome, after, further⟩
      cases outcome with
      | failure failed =>
          have whole : (how.apply p q).parse s context =
              ⟨.failure (failed.relabel (how.label p.label q.label)), after,
                journal ++ further⟩ := by
            simp only [Join.parse_apply, Parser.runBoth, Run.bind_apply, came, next,
              Run.pure_apply, List.append_nil]
          rw [walk_failure _ whole, Join.label_apply]
          simp only [Run.bind_apply, next, Run.pure_apply, List.append_nil, Failed.under_cons]
      | success second last =>
          have whole : (how.apply p q).parse s context =
              ⟨.success (how.combine value second) last, after, journal ++ further⟩ := by
            simp only [Join.parse_apply, Parser.runBoth, Run.bind_apply, came, next,
              Run.pure_apply, List.append_nil]
          rw [walk_success _ whole, Join.label_apply]
          simp only [Run.bind_apply, next, List.append_assoc]

theorem walk_map (f : α → β) (later : Chain σ ω γ β) (p : Parser σ ω α) (s : σ) :
    later.walk (p.map f) s = (map f later).walk p s := by
  funext context
  rcases came : p.parse s context with ⟨outcome, middle, journal⟩
  have whole : (p.map f).parse s context = ⟨outcome.map f, middle, journal⟩ := by
    simp only [Parser.parse, Parser.map, Run.map_apply] at came ⊢
    rw [came]
  cases outcome with
  | failure failed => rw [walk_failure _ whole, walk_failure _ came]; rfl
  | success value rest => rw [walk_success _ whole, walk_success _ came]; rfl

/-- A step that refuses its value fails where the chain started. -/
theorem walk_tryMap {ε : Type} (f : α → Except ε β) (message : ε → String)
    (later : Chain σ ω γ β) (p : Parser σ ω α) (s : σ) :
    later.walk (p.tryMap f message) s = (tryMap f message later).walk p s := by
  funext context
  rcases came : p.parse s context with ⟨outcome, middle, journal⟩
  cases outcome with
  | failure failed =>
      have whole : (p.tryMap f message).parse s context =
          ⟨.failure failed, middle, journal⟩ := by
        simp only [Parser.parse, Parser.tryMap, Run.bind_apply] at came ⊢
        simp only [came, Run.pure_apply, List.append_nil]
      rw [walk_failure _ whole, walk_failure _ came]
      rfl
  | success value rest =>
      rw [walk_success _ came, goOn]
      cases checked : f value with
      | error error =>
          have whole : (p.tryMap f message).parse s context =
              ⟨.failure (Failed.report p.label (message error) s), middle, journal⟩ := by
            simp only [Parser.parse, Parser.tryMap, Run.bind_apply] at came ⊢
            simp only [came, checked, Run.pure_apply, List.append_nil, Outcome.fail]
          rw [walk_failure _ whole, Failed.under_report]
          simp only [Run.pure_apply, List.append_nil]
          rfl
      | ok result =>
          have whole : (p.tryMap f message).parse s context =
              ⟨.success result rest, middle, journal⟩ := by
            simp only [Parser.parse, Parser.tryMap, Run.bind_apply] at came ⊢
            simp only [came, checked, Run.pure_apply, List.append_nil]
          rw [walk_success _ whole]
          rfl

end

/-- A chain of parsers is one run from left to right. -/
theorem parse_after {α : Type} (chain : Chain σ ω γ α) (p : Parser σ ω α) (s : σ) :
    (chain.after p).parse s = chain.walk p s := by
  induction chain with
  | done =>
      funext context
      rw [after]
      rcases came : p.parse s context with ⟨outcome, middle, journal⟩
      cases outcome with
      | failure failed => rw [walk_failure _ came, labels, Failed.under_nil]
      | success value rest =>
          rw [walk_success _ came, goOn]
          simp only [Run.pure_apply, List.append_nil]
  | join how q later ih => rw [after, ih, walk_join]
  | map f later ih => rw [after, ih, walk_map]
  | tryMap f message later ih => rw [after, ih, walk_tryMap]
  | copy later ih => exact ih p

/-- The steps of a chain given as data.  Looking at a chain changes nothing in it. -/
def ofSteps [Cursor σ ι ω] [Item ι] [Leaves κ σ ω] (scope : Scope σ ω) :
    List (ChainStep (Grammar ι κ)) → Chain σ ω Value Value
  | [] => done
  | .both q :: later =>
      join .both (q.build scope none).value
        (map (fun (first, second) => .pair first second) (ofSteps scope later))
  | .keepSecond q :: later => join .keepSecond (q.build scope none).value (ofSteps scope later)
  | .keepFirst q :: later => join .keepFirst (q.build scope none).value (ofSteps scope later)
  | .map transform :: later => map transform.apply (ofSteps scope later)
  | .tryMap check :: later => tryMap check.run Refusal.message (ofSteps scope later)
  | .copy :: later | .look :: later => copy (ofSteps scope later)

theorem buildSteps_value [Cursor σ ι ω] [Item ι] [Leaves κ σ ω] (scope : Scope σ ω)
    (steps : List (ChainStep (Grammar ι κ))) (p : Parser σ ω Value) :
    (Grammar.buildSteps scope p steps).value = (ofSteps scope steps).after p := by
  induction steps generalizing p with
  | nil => rw [Grammar.buildSteps]; rfl
  | cons step later ih =>
      cases step with
      | both q | keepSecond q | keepFirst q | look =>
          rw [Grammar.buildSteps, Logged.value_bind, ih]
          rfl
      | map | tryMap | copy =>
          rw [Grammar.buildSteps, ih]
          rfl

/-- The run of a chain that is finished under a label. -/
structure Finishes [Cursor σ ι ω] {α : Type} (chain : Chain σ ω γ α) (p : Parser σ ω α)
    (label : String) : Prop where
  /-- At the end of the input nothing is run. -/
  atEnd : ∀ {s : σ} {context : Context ω} {shared : ω},
    Cursor.atEnd s context.shared = (true, shared) →
      (Parser.labeled label (chain.after p)).parse s context =
        ⟨.failure (Failed.under ⟨"EOF", [], s⟩ [label]), ⟨shared, context.depth⟩, []⟩
  elsewhere : ∀ {s : σ} {context : Context ω} {shared : ω},
    Cursor.atEnd s context.shared = (false, shared) →
      (Parser.labeled label (chain.after p)).parse s context =
        (Outcome.mapFailure (·.under [label]) <$> chain.walk p s) ⟨shared, context.depth⟩

/-- What a chain after a parser is. -/
structure RunsThrough [Cursor σ ι ω] {α : Type} (chain : Chain σ ω γ α) (p : Parser σ ω α) :
    Prop where
  label : (chain.after p).label = chain.label p.label
  run : ∀ s, (chain.after p).parse s = chain.walk p s
  /-- All that is recorded of labels is without empty ones and repeated neighbours. -/
  stack : ∀ {failed : Failed σ}, failed.Canonical → ∀ labels,
    (failed.under labels).expected = labelStack (failed.expected ++ labels)
  finishes : ∀ label, chain.Finishes p label

theorem finishes [Cursor σ ι ω] {α : Type} (chain : Chain σ ω γ α) (p : Parser σ ω α)
    (label : String) : chain.Finishes p label where
  atEnd {s context shared} ended := by
    have whole : (Parser.labeled label (chain.after p)).parse s context =
        ⟨.fail label "EOF" s, ⟨shared, context.depth⟩, []⟩ := Parser.guarded_parse_atEnd ended
    rw [whole, Outcome.fail, ← Failed.under_nil (Failed.report ..), Failed.under_report]
  elsewhere {s context shared} unread := by
    have relabeled : ∀ outcome : Outcome σ γ,
        outcome.relabel label = outcome.mapFailure (·.under [label]) := by
      intro outcome
      simp only [Outcome.relabel, Failed.under_cons, Failed.under_nil]
    rw [← parse_after, Run.map_apply, ← relabeled]
    exact Parser.guarded_parse_unread unread

theorem runsThrough [Cursor σ ι ω] {α : Type} (chain : Chain σ ω γ α) (p : Parser σ ω α) :
    chain.RunsThrough p where
  label := chain.label_after p
  run := chain.parse_after p
  stack canonical labels := Failed.expected_under canonical labels
  finishes := chain.finishes p

end Chain

/-- A chain is one run from left to right, in which the first failure decides; and a chain
given as data is the chain of the parsers that its parts stand for. -/
theorem chains_run_through :
    (∀ {σ ι ω α γ : Type} [Cursor σ ι ω] (chain : Chain σ ω γ α) (p : Parser σ ω α),
      chain.RunsThrough p) ∧
      ∀ {σ ι κ ω : Type} [Cursor σ ι ω] [Item ι] [Leaves κ σ ω] (scope : Scope σ ω)
        (first : Grammar ι κ) (steps : List (ChainStep (Grammar ι κ))) (finish : Finish),
        ((Grammar.chain first steps finish).build scope none).value =
          finish.apply ((Chain.ofSteps scope steps).after (first.build scope none).value) := by
  refine ⟨fun chain p => chain.runsThrough p, ?_⟩
  intro σ ι κ ω _ _ _ scope first steps finish
  rw [Grammar.build, Logged.value_bind, Logged.value_bind, Chain.buildSteps_value]
  rfl

end Descent
