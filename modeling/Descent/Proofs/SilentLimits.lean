import Descent.Proofs.Comparison.Symbols

/-!
# Silent parses

A guard that steps in writes a warning, also where an alternative, an option or a
repetition then throws away what came of it.  So a parse without warnings was decided by
no limit: with more deferred parsers allowed to be open, and with fewer repetitions
guarded, it comes to the same.
-/

namespace Descent

/-- Limits that step in at most where the given ones do, with the same cap. -/
structure Limits.Looser (limits other : Limits) : Prop where
  sameCap : other.maxRepetitions = limits.maxRepetitions
  guards : other.requireProgress = true → limits.requireProgress = true
  depth : limits.maxRecursionDepth ≤ other.maxRecursionDepth

theorem Limits.Looser.refl (limits : Limits) : limits.Looser limits :=
  ⟨rfl, id, Nat.le_refl _⟩

def Event.isWarning : Event → Bool
  | .warning _ => true
  | _ => false

/-- No guard has stepped in. -/
def Journal.Silent (journal : Journal) : Prop :=
  ∀ event ∈ journal.reported, event.isWarning = false

instance (journal : Journal) : Decidable journal.Silent :=
  inferInstanceAs (Decidable (∀ event ∈ journal.reported, event.isWarning = false))

def Variation.loosened (κ : Type) : Variation κ where
  sameLabels := True
  leaves := Eq
  repetitions := Limits.Looser
  deferrals := Limits.Looser
  attempts := False

/-- Runs under loosened limits, as long as there are no warnings. -/
def Comparison.loosened (σ κ : Type) {ω ι : Type} [Cursor σ ι ω] : Comparison σ κ where
  toVariation := .loosened κ
  permits event := event.isWarning = false
  opens _ := True
  cap loose := loose.sameCap
  progress {limits other} loose := by
    cases guarded : other.requireProgress with
    | true => exact .inl (loose.guards guarded).symm
    | false => exact .inr ⟨rfl, fun _ _ _ => Bool.noConfusion⟩
  room _ _ _ := trivial
  depth loose := .inr ⟨loose.depth, fun _ _ _ _ => Bool.noConfusion⟩

theorem Event.Alike.eq {opens : Nat → Prop} {first second : Event}
    (alike : Event.Alike True opens Eq first second) : first = second := by
  cases alike with
  | hit => rfl
  | miss _ texts there => rw [texts trivial, there]
  | composed texts => rw [texts trivial]
  | stalled _ labels items => rw [labels trivial, items trivial]
  | tooDeep _ _ _ labels => rw [labels trivial]
  | matched _ _ labels => rw [labels trivial]
  | missed labels texts there => rw [labels trivial, texts trivial, there]
  | entered labels => rw [labels trivial]
  | exited labels => rw [labels trivial]

namespace Comparison

variable {σ ι κ ω α : Type} [Cursor σ ι ω]

theorem Agree.eq_of_loosened {s : σ} {first second : Outcome σ α}
    (agree : (loosened σ κ).Agree s first second) : first = second := by
  cases agree with
  | success => rfl
  | failure expected _ there => rw [expected trivial, there]

theorem Ends.eq_of_loosened {s : σ} {depth : Nat} {first second : Step ω (Outcome σ α)}
    (ends : (loosened σ κ).Ends depth ((loosened σ κ).Agree s) first second) :
    second = first := by
  have journals : first.journal = second.journal :=
    List.forall₂_eq_eq_eq ▸ ends.journal.imp fun _ _ => Event.Alike.eq
  calc second
      = ⟨second.value, second.context, second.journal⟩ := rfl
    _ = ⟨first.value, first.context, first.journal⟩ := by
      rw [ends.value.eq_of_loosened, ends.context, journals]
    _ = first := rfl

theorem permitted_of_silent {journal : Journal} (silent : journal.Silent) :
    (loosened σ κ).Permitted journal := by
  intro event member
  change event.isWarning = false
  by_cases reported : event.isReported = true
  · exact silent event (List.mem_filter.mpr ⟨member, reported⟩)
  · cases event with
    | warning => simp [Event.isReported] at reported
    | _ => rfl

theorem loosened_symbolic {σ ω : Type} [SymbolCursor σ ω] :
    (loosened σ TextLeaf).Symbolic where
  takeSymbol_ahead _ := trivial
  leaves same := by
    cases same
    exact .same _
  standard := .refl _

theorem loosened_parse [Item ι] [Leaves κ σ ω] (counted : (Correspondence.counted σ).Leafwise κ)
    (leaves : (loosened σ κ).Leafwise) {rules rules' : Rules ι κ} {grammar grammar' : Grammar ι κ}
    (looserRules : rules.Varies (.loosened κ) rules')
    (looser : grammar.Varies (.loosened κ) grammar') {s : σ} {context : Context ω}
    (silent : (grammar.parse rules s context).journal.Silent) :
    grammar'.parse rules' s context = grammar.parse rules s context := by
  have runs := parse_agree counted leaves looserRules looser s
  exact (runs context (Nat.zero_le _) (permitted_of_silent silent)).eq_of_loosened

end Comparison

/-- A parse that writes no warning comes to the same with limits loosened anywhere: the
same outcome, the same journal and the same state of the input. -/
theorem parse_eq_of_silent :
    (∀ {rules rules' : Rules String TextLeaf} {grammar grammar' : Grammar String TextLeaf},
      rules.Varies (.loosened TextLeaf) rules' → grammar.Varies (.loosened TextLeaf) grammar' →
        ∀ {s : TextCursor} {context : Context Unit},
          (grammar.parse rules s context).journal.Silent →
            grammar'.parse rules' s context = grammar.parse rules s context) ∧
      (∀ {rules rules' : Rules String TextLeaf} {grammar grammar' : Grammar String TextLeaf},
        rules.Varies (.loosened TextLeaf) rules' → grammar.Varies (.loosened TextLeaf) grammar' →
          ∀ {s : TokenCursor} {context : Context TokenBuffer},
            (grammar.parse rules s context).journal.Silent →
              grammar'.parse rules' s context = grammar.parse rules s context) ∧
      ∀ (ι : Type) [Item ι] {rules rules' : Rules ι Empty} {grammar grammar' : Grammar ι Empty},
        rules.Varies (.loosened Empty) rules' → grammar.Varies (.loosened Empty) grammar' →
          ∀ {s : SliceCursor ι} {context : Context Unit},
            (grammar.parse rules s context).journal.Silent →
              grammar'.parse rules' s context = grammar.parse rules s context := by
  refine ⟨?_, ?_, ?_⟩
  · intro _ _ _ _ looserRules looser _ _ silent
    exact Comparison.loosened_parse Correspondence.counted_leafwise
      Comparison.loosened_symbolic.leafwise looserRules looser silent
  · intro _ _ _ _ looserRules looser _ _ silent
    exact Comparison.loosened_parse Correspondence.counted_leafwise
      Comparison.loosened_symbolic.leafwise looserRules looser silent
  · intro ι _ _ _ _ _ looserRules looser _ _ silent
    exact Comparison.loosened_parse Correspondence.leafwise_empty Comparison.leafwise_empty
      looserRules looser silent

/-- A chain of ones that ends within its limit, whichever limits are then loosened. -/
theorem parse_eq_of_silent_ones :
    let rules (limits : Limits) : Rules Int Empty :=
      [("ones", .both (.many (.exact 2) limits) (.both (.exact 1)
        (.optional (.deferred "" "ones" limits))))]
    let grammar : Grammar Int Empty := .rule "ones"
    let s : SliceCursor Int := .start #[1, 2, 1] (· == ·)
    (grammar.parse (rules ⟨3, true, 2⟩) s ⟨(), 0⟩).journal.Silent ∧
      grammar.parse (rules ⟨3, false, 7⟩) s ⟨(), 0⟩ =
        grammar.parse (rules ⟨3, true, 2⟩) s ⟨(), 0⟩ ∧
      (grammar.parse (rules ⟨3, true, 2⟩) s ⟨(), 0⟩).value =
        .success (.pair (.list []) (.pair (.int 1)
          (.present (.pair (.list [.int 2]) (.pair (.int 1) .absent))))) { s with index := 3 } := by
  intro rules grammar s
  have silent : (grammar.parse (rules ⟨3, true, 2⟩) s ⟨(), 0⟩).journal.Silent := by
    decide +kernel
  have looser : Limits.Looser ⟨3, true, 2⟩ ⟨3, false, 7⟩ := ⟨rfl, fun _ => rfl, by decide⟩
  have varies : (rules ⟨3, true, 2⟩).Varies (.loosened Empty) (rules ⟨3, false, 7⟩) := by
    refine .cons ⟨rfl, ?_⟩ .nil
    exact .both (.many looser (.exact 2)) (.both (.exact 1)
      (.optional (.deferred "ones" (fun _ => rfl) looser)))
  have same : grammar.Varies (.loosened Empty) grammar := .rule "ones"
  exact ⟨silent, parse_eq_of_silent.2.2 Int varies same silent, rfl⟩

end Descent
