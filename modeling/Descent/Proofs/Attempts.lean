import Descent.Proofs.Comparison.Symbols
import Descent.Proofs.Forward

/-!
# Attempts

Whatever tries something else after a failure goes on from the cursor it has kept, and
never from the place where the failure came to rest.  So a grammar can be attempted
anywhere inside: it accepts the same texts with the same values, and where it fails it
does so for the same reason, and comes to rest no later than before.
-/

namespace Descent

variable {σ ι κ ω α : Type}

/-- Parts may be attempted on the second side, and are labeled as they like. -/
def Variation.attempted (κ : Type) : Variation κ where
  sameLabels := False
  leaves := Eq
  repetitions := Eq
  deferrals := Eq
  attempts := True

/-- Two outcomes of parses from one cursor are the same success, or failures for the same
reason of which the second one rests no later, though not before the cursor. -/
inductive Outcome.RestsEarlier [Cursor σ ι ω] (s : σ) : Outcome σ α → Outcome σ α → Prop where
  | success (value : α) (rest : σ) :
      RestsEarlier s (.success value rest) (.success value rest)
  | failure {reason : String} {expected expected' : List String} {rest other : σ} :
      Cursor.position s ≤ Cursor.position other →
        Cursor.position other ≤ Cursor.position rest →
          RestsEarlier s (.failure ⟨reason, expected, rest⟩) (.failure ⟨reason, expected', other⟩)

/-- The second of two parses from one cursor leaves the shared state as the first one
does, and rests no later. -/
structure Step.RestsEarlier [Cursor σ ι ω] (s : σ) (first second : Step ω (Outcome σ α)) :
    Prop where
  value : first.value.RestsEarlier s second.value
  context : second.context = first.context

namespace Comparison

variable [Cursor σ ι ω]

/-- Runs of which the second one attempts more than the first one. -/
def attempting (κ : Type) (advances : Cursor.Advances σ) : Comparison σ κ where
  toVariation := .attempted κ
  permits _ := True
  opens _ := True
  ahead s r := Cursor.position s ≤ Cursor.position r
  places r t := Cursor.position t ≤ Cursor.position r
  positions first second := second ≤ first
  ahead_refl _ := Nat.le_refl _
  ahead_trans before after := Nat.le_trans before after
  take_ahead {s item state taken} success := advances s item state taken success
  places_refl _ := Nat.le_refl _
  positions_of_places earlier := earlier
  attempted _ := ⟨id, fun ahead _ => ahead⟩
  cap same := by rw [same]
  progress same := .inl (by rw [same])
  room _ _ _ := trivial
  depth same := .inl (by rw [same])

theorem attempting_symbolic {σ ω : Type} [SymbolCursor σ ω] (advances : Cursor.Advances σ)
    (symbols : SymbolCursor.Advances σ) : (attempting TextLeaf advances).Symbolic where
  takeSymbol_ahead {s accept state taken} success := symbols s accept state taken success
  leaves same := by
    cases same
    exact .same _
  standard := rfl

theorem attempting_parse [Item ι] [Leaves κ σ ω] (advances : Cursor.Advances σ)
    (counted : (Correspondence.counted σ).Leafwise κ) (leaves : (attempting κ advances).Leafwise)
    (forward : ∀ start, (Correspondence.startingAt advances start).Leafwise κ)
    {rules rules' : Rules ι κ} {grammar grammar' : Grammar ι κ}
    (attemptedRules : rules.Varies (.attempted κ) rules')
    (attempted : grammar.Varies (.attempted κ) grammar') (s : σ) (context : Context ω) :
    (grammar.parse rules s context).RestsEarlier s (grammar'.parse rules' s context) := by
  have runs := parse_agree counted leaves attemptedRules attempted s
  have ends := runs context (Nat.zero_le _) fun _ _ => trivial
  have agree := ends.value
  -- Attempts move failures back, but never in front of the cursor that they started from.
  obtain ⟨onward, _⟩ := Invariant.parse (forward (Cursor.position s)) rules' grammar'
    (Nat.le_refl (Cursor.position s)) context trivial
  refine ⟨?_, ends.context⟩
  generalize (grammar.parse rules s context).value = first at agree
  generalize (grammar'.parse rules' s context).value = second at agree onward
  cases agree with
  | success => exact .success _ _
  | failure _ _ earlier => exact .failure onward earlier

end Comparison

/-- Grammars in which parts are attempted, anywhere in them and in their rules, accept
what they accept without, with the same values; where they fail it is for the same
reason, and no later. -/
theorem parse_restsEarlier_of_attempted :
    (∀ {rules rules' : Rules String TextLeaf} {grammar grammar' : Grammar String TextLeaf},
      rules.Varies (.attempted TextLeaf) rules' → grammar.Varies (.attempted TextLeaf) grammar' →
        ∀ (s : TextCursor) (context : Context Unit),
          (grammar.parse rules s context).RestsEarlier s (grammar'.parse rules' s context)) ∧
      (∀ {rules rules' : Rules String TextLeaf} {grammar grammar' : Grammar String TextLeaf},
        rules.Varies (.attempted TextLeaf) rules' →
          grammar.Varies (.attempted TextLeaf) grammar' →
            ∀ (s : TokenCursor) (context : Context TokenBuffer),
              (grammar.parse rules s context).RestsEarlier s (grammar'.parse rules' s context)) ∧
      ∀ (ι : Type) [Item ι] {rules rules' : Rules ι Empty} {grammar grammar' : Grammar ι Empty},
        rules.Varies (.attempted Empty) rules' → grammar.Varies (.attempted Empty) grammar' →
          ∀ (s : SliceCursor ι) (context : Context Unit),
            (grammar.parse rules s context).RestsEarlier s (grammar'.parse rules' s context) := by
  refine ⟨?_, ?_, ?_⟩
  · intro _ _ _ _ attemptedRules attempted s context
    have symbolic := Correspondence.startingAt_symbolic TextCursor.advances
      TextCursor.symbols_advance
    exact Comparison.attempting_parse TextCursor.advances Correspondence.counted_leafwise
      (Comparison.attempting_symbolic TextCursor.advances TextCursor.symbols_advance).leafwise
      (fun start => (symbolic start).leafwise) attemptedRules attempted s context
  · intro _ _ _ _ attemptedRules attempted s context
    have symbolic := Correspondence.startingAt_symbolic TokenCursor.advances
      TokenCursor.symbols_advance
    exact Comparison.attempting_parse TokenCursor.advances Correspondence.counted_leafwise
      (Comparison.attempting_symbolic TokenCursor.advances TokenCursor.symbols_advance).leafwise
      (fun start => (symbolic start).leafwise) attemptedRules attempted s context
  · intro ι _ _ _ _ _ attemptedRules attempted s context
    exact Comparison.attempting_parse SliceCursor.advances Correspondence.leafwise_empty
      Comparison.leafwise_empty (fun _ => Correspondence.leafwise_empty) attemptedRules attempted
      s context

/-- Calls that lack a bracket at the end: without attempts the failure rests there, with
them after the first letter. -/
theorem parse_restsEarlier_of_attempted_calls :
    let call (arguments : Grammar String TextLeaf) : Grammar String TextLeaf :=
      .both (.exact "f") arguments
    let arguments (item : Grammar String TextLeaf) : Grammar String TextLeaf :=
      .between (.exact "(") (.exact ")") (.many item .standard)
    let deferred : Grammar String TextLeaf := .deferred "" "call" .standard
    let rules : Rules String TextLeaf := [("call", call (arguments deferred))]
    let rules' : Rules String TextLeaf :=
      [("call", call (.attempt (arguments (.attempt deferred))))]
    let grammar : Grammar String TextLeaf := .rule "call"
    let s := TextCursor.start "f(f()" .standard
    rules.Varies (.attempted TextLeaf) rules' ∧ grammar.Varies (.attempted TextLeaf) grammar ∧
      (grammar.parse rules s ⟨(), 0⟩).RestsEarlier s (grammar.parse rules' s ⟨(), 0⟩) ∧
      (grammar.parse rules s ⟨(), 0⟩).value =
        .failure ⟨"EOF", ["EXACT \")\"", "ZERO OR MANY", "BETWEEN", "EXACT \"f\" AND BETWEEN"],
          ⟨"f(f()", 5, .standard, by decide⟩⟩ ∧
      (grammar.parse rules' s ⟨(), 0⟩).value =
        .failure ⟨"EOF", ["EXACT \")\"", "ZERO OR MANY", "BETWEEN", "ATTEMPT",
            "EXACT \"f\" AND ATTEMPT"], ⟨"f(f()", 1, .standard, by decide⟩⟩ := by
  refine ⟨?varies, ?named, parse_restsEarlier_of_attempted.1 ?varies ?named _ _,
    by decide +kernel, by decide +kernel⟩
  case varies =>
    have unlabeled : (Variation.attempted TextLeaf).Labels "" "" := Variation.labels_self ""
    refine .cons ⟨rfl, .both (.exact "f") (.attempted trivial ?_)⟩ .nil
    refine .between (.exact "(") (.exact ")") (.many rfl ?_)
    exact .attempted trivial (.deferred "call" unlabeled rfl)
  case named => exact .rule "call"

end Descent
