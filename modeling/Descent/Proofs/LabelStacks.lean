import Mathlib.Data.List.Destutter
import Descent.Proofs.Conduct.Rules
import Descent.Proofs.Conduct.Symbols

/-!
# Label stacks are canonical

A failure is reported under labels on its way outward.  Each is compared with the last one
recorded only; still the labels that are left are all that were given, without the empty
ones and with runs of equal ones collapsed.  So no failure of a parse shows an empty label
or the same label twice in a row.
-/

namespace Descent

variable {σ ι κ ω α : Type}

/-- What can be done to an outcome on its way outward; only failures change. -/
inductive Revision (σ : Type) where
  | relabel (label : String)
  | refail (label : String)
  | rewind (place : σ)

namespace Revision

/-- The label that a revision reports failures under. -/
def label? : Revision σ → Option String
  | .relabel label | .refail label => some label
  | .rewind _ => none

/-- The cursor that a revision moves failures to. -/
def place? : Revision σ → Option σ
  | .relabel _ | .refail _ => none
  | .rewind place => some place

end Revision

def Outcome.revise (outcome : Outcome σ α) : Revision σ → Outcome σ α
  | .relabel label => outcome.mapFailure (·.relabel label)
  | .refail label => outcome.relabel label
  | .rewind place => outcome.rewind place

/-- The labels that are left of those given. -/
def labelStack (labels : List String) : List String :=
  (labels.filter (· ≠ "")).destutter (· ≠ ·)

theorem destutter'_concat (first : String) (labels : List String) (label : String) :
    (labels ++ [label]).destutter' (· ≠ ·) first =
      if (first :: labels).getLast? = some label then labels.destutter' (· ≠ ·) first
      else labels.destutter' (· ≠ ·) first ++ [label] := by
  induction labels generalizing first with
  | nil => simp [List.destutter'_singleton, ite_not]
  | cons next later ih =>
      rw [List.cons_append, List.getLast?_cons_cons]
      by_cases same : first = next
      · rw [List.destutter'_cons_neg _ (not_not.mpr same),
          List.destutter'_cons_neg _ (not_not.mpr same), ih, same]
      · rw [List.destutter'_cons_pos _ same, List.destutter'_cons_pos _ same, ih]
        split <;> rfl

theorem destutter_concat (labels : List String) (label : String) :
    (labels ++ [label]).destutter (· ≠ ·) =
      if labels.getLast? = some label then labels.destutter (· ≠ ·)
      else labels.destutter (· ≠ ·) ++ [label] := by
  cases labels with
  | nil => rfl
  | cons first later => exact destutter'_concat first later label

theorem getLast?_destutter (labels : List String) :
    (labels.destutter (· ≠ ·)).getLast? = labels.getLast? := by
  induction labels using List.reverseRecOn with
  | nil => rfl
  | append_singleton labels label ih =>
      rw [destutter_concat, List.getLast?_concat]
      split
      · next last => rw [ih, last]
      · exact List.getLast?_concat

/-- One more label is recorded unless it is empty or the last one recorded. -/
theorem labelStack_concat (labels : List String) (label : String) :
    labelStack (labels ++ [label]) =
      if label = "" ∨ (labelStack labels).getLast?.getD "" = label then labelStack labels
      else labelStack labels ++ [label] := by
  rw [labelStack, List.filter_append]
  by_cases named : label = ""
  · simp [named, labelStack]
  · have kept : [label].filter (· ≠ "") = [label] := by simp [named]
    have last : (labelStack labels).getLast?.getD "" = label ↔
        (labels.filter (· ≠ "")).getLast? = some label := by
      rw [labelStack, getLast?_destutter]
      cases (labels.filter (· ≠ "")).getLast? with
      | none => simp [Ne.symm named]
      | some other => simp
    rw [kept, destutter_concat]
    simp only [named, false_or, last]
    rfl

/-- A failure that was given labels and moved presents itself by them. -/
structure Failed.Presents (failed : Failed σ) (cause : String) (stack : List String) (place : σ) :
    Prop where
  reason : failed.reason = cause
  expected : failed.expected = stack
  remaining : failed.remaining = place
  label : failed.label = stack.getLast?.getD ""
  display : failed.display = match stack.getLast? with
    | none => cause
    | some outermost => "Expected: " ++ outermost ++ " (" ++ cause ++ ")"
  displayStack : failed.displayStack =
    if stack = [] then cause
    else "Expected: " ++ String.intercalate " <- " stack.reverse ++ " (" ++ cause ++ ")"

theorem Failed.presents (reason : String) (stack : List String) (place : σ) :
    (⟨reason, stack, place⟩ : Failed σ).Presents reason stack place where
  reason := rfl
  expected := rfl
  remaining := rfl
  label := rfl
  display := by
    unfold Failed.display Failed.explain
    cases stack.getLast? <;> rfl
  displayStack := by
    simp only [Failed.displayStack, Failed.explain, List.isEmpty_iff]

theorem Failed.relabel_labelStack (reason : String) (labels : List String) (place : σ)
    (label : String) :
    Failed.relabel ⟨reason, labelStack labels, place⟩ label =
      ⟨reason, labelStack (labels ++ [label]), place⟩ := by
  rw [labelStack_concat, Failed.relabel, Failed.label]
  split <;> rfl

/-- A step of the history of a failure. -/
theorem Outcome.revise_failure (reason : String) (labels : List String) (place : σ)
    (revision : Revision σ) :
    Outcome.revise (.failure ⟨reason, labelStack labels, place⟩ : Outcome σ α) revision =
      .failure ⟨reason, labelStack (labels ++ revision.label?.toList),
        revision.place?.getD place⟩ := by
  cases revision with
  | relabel label | refail label =>
      exact congrArg Outcome.failure (Failed.relabel_labelStack reason labels place label)
  | rewind place =>
      rw [Revision.label?, Option.toList_none, List.append_nil]
      rfl

theorem Outcome.foldl_revise (reason : String) (labels : List String) (place : σ)
    (revisions : List (Revision σ)) :
    revisions.foldl Outcome.revise (.failure ⟨reason, labelStack labels, place⟩ : Outcome σ α) =
      .failure ⟨reason, labelStack (labels ++ revisions.filterMap Revision.label?),
        (revisions.filterMap Revision.place?).getLast?.getD place⟩ := by
  induction revisions generalizing labels place with
  | nil => rw [List.filterMap_nil, List.append_nil]; rfl
  | cons revision later ih =>
      rw [List.foldl_cons, Outcome.revise_failure, ih]
      cases revision with
      | relabel label | refail label => simp [Revision.label?, Revision.place?]
      | rewind moved =>
          have unlabeled : (.rewind moved : Revision σ).label? = none := rfl
          simp [unlabeled, Revision.place?, List.getLast?_cons]

theorem Outcome.exists_presents (label reason : String) (place : σ)
    (revisions : List (Revision σ)) :
    ∃ failed, revisions.foldl Outcome.revise (.fail label reason place : Outcome σ α) =
        .failure failed ∧
      failed.Presents reason (labelStack (label :: revisions.filterMap Revision.label?))
        ((revisions.filterMap Revision.place?).getLast?.getD place) := by
  have started : (.fail label reason place : Outcome σ α) =
      .failure ⟨reason, labelStack [label], place⟩ :=
    congrArg Outcome.failure (Failed.relabel_labelStack reason [] place label)
  rw [started, Outcome.foldl_revise]
  exact ⟨_, rfl, Failed.presents ..⟩

/-- No label is empty, and no two neighbours are equal. -/
structure Failed.Canonical (failed : Failed σ) : Prop where
  named : "" ∉ failed.expected
  distinct : failed.expected.IsChain (· ≠ ·)

theorem Failed.canonical_of_labelStack {failed : Failed σ} {labels : List String}
    (stack : failed.expected = labelStack labels) : failed.Canonical := by
  constructor
  · intro member
    rw [stack] at member
    have kept := (List.destutter_sublist _ _).mem member
    simp at kept
  · rw [stack]
    exact List.isChain_destutter _ _

/-- The labels of failures are what is left of some labels. -/
def Conduct.canonical (σ : Type) : Conduct σ where
  failures failed := ∃ labels, failed.expected = labelStack labels
  stalls := True
  report label reason place :=
    ⟨[label], congrArg Failed.expected (Failed.relabel_labelStack reason [] place label)⟩
  relabel {failed} label := by
    obtain ⟨reason, expected, place⟩ := failed
    rintro ⟨labels, rfl⟩
    exact ⟨_, congrArg Failed.expected (Failed.relabel_labelStack reason labels place label)⟩
  rewind _ stack := stack

theorem Conduct.canonical_parse [Cursor σ ι ω] [Item ι] [Leaves κ σ ω] {known : Consumption ι κ}
    (items : Cursor.Consumes σ known.items) (leaves : (canonical σ).Leafwise known)
    {rules : Rules ι κ} (borne : rules.BearOut known) {grammar : Grammar ι κ} {s : σ}
    {context : Context ω} {failed : Failed σ}
    (failure : (grammar.parse rules s context).value = .failure failed) : failed.Canonical := by
  have demands : (canonical σ).Demands known (grammar.parts ++ rules.parts) :=
    fun _ _ => .inl trivial
  obtain ⟨rests, _⟩ := parse_keeps items leaves borne demands s context
  rw [failure] at rests
  cases rests with
  | failure stack => exact Failed.canonical_of_labelStack stack.choose_spec

/-- The labels of a failure that was reported under labels and moved are those that were
given, without the empty ones and with runs of equal ones collapsed, and a failure of a parse
has such labels only. -/
theorem labels_canonical :
    (∀ (σ α : Type) (label reason : String) (place : σ) (revisions : List (Revision σ)),
      ∃ failed, revisions.foldl Outcome.revise (.fail label reason place : Outcome σ α) =
          .failure failed ∧
        failed.Presents reason (labelStack (label :: revisions.filterMap Revision.label?))
          ((revisions.filterMap Revision.place?).getLast?.getD place)) ∧
      (∀ {rules : Rules String TextLeaf} {grammar : Grammar String TextLeaf} {s : TextCursor}
        {context : Context Unit} {failed : Failed TextCursor},
        (grammar.parse rules s context).value = .failure failed → failed.Canonical) ∧
      (∀ {rules : Rules String TextLeaf} {grammar : Grammar String TextLeaf} {s : TokenCursor}
        {context : Context TokenBuffer} {failed : Failed TokenCursor},
        (grammar.parse rules s context).value = .failure failed → failed.Canonical) ∧
      ∀ (ι : Type) [Item ι] {rules : Rules ι Empty} {grammar : Grammar ι Empty}
        {s : SliceCursor ι} {context : Context Unit} {failed : Failed (SliceCursor ι)},
        (grammar.parse rules s context).value = .failure failed → failed.Canonical := by
  have unknown : ∀ _ : String, false = false := fun _ => rfl
  refine ⟨?_, ?_, ?_, ?_⟩
  · intro σ α label reason place revisions
    exact Outcome.exists_presents label reason place revisions
  · intro rules grammar s context failed failure
    have symbolic := TextCursor.symbolic (fun _ => false) fun _ => false
    exact Conduct.canonical_parse symbolic.items symbolic.leafwise
      (.of_nothing unknown unknown) failure
  · intro rules grammar s context failed failure
    have symbolic := TokenCursor.symbolic (fun _ => false) fun _ => false
    exact Conduct.canonical_parse symbolic.items symbolic.leafwise
      (.of_nothing unknown unknown) failure
  · intro ι _ rules grammar s context failed failure
    have borne : rules.BearOut (.ofItems (fun _ => false) fun _ => false) :=
      .of_nothing unknown unknown
    exact Conduct.canonical_parse SliceCursor.consumes Conduct.leafwise_empty borne failure

/-- An argument that is none, reported under labels some of which come twice. -/
theorem labels_canonical_call :
    let arguments : Grammar String TextLeaf :=
      .between (.exact "(") (.exact ")") (.labeled "ARGUMENT" (.leaf .digit))
    let grammar : Grammar String TextLeaf :=
      .labeled "CALL" (.relabeled "" (.keepSecond (.exact "f") (.relabeled "CALL" arguments)))
    ∃ failed, (grammar.parse [] (TextCursor.start "f(x" .standard) ⟨(), 0⟩).value =
        .failure failed ∧
      failed.expected = ["DIGIT", "ARGUMENT", "BETWEEN", "CALL", "BETWEEN", "CALL"] ∧
      failed.Canonical := by
  intro arguments grammar
  have failure : (grammar.parse [] (TextCursor.start "f(x" .standard) ⟨(), 0⟩).value =
      .failure ⟨"unexpected symbol", ["DIGIT", "ARGUMENT", "BETWEEN", "CALL", "BETWEEN", "CALL"],
        ⟨"f(x", 2, .standard, by decide⟩⟩ := rfl
  exact ⟨_, failure, rfl, labels_canonical.2.1 failure⟩

end Descent
