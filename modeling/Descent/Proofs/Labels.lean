import Descent.Proofs.Comparison.Symbols

/-!
# Labels are diagnostic

Labels say where a parse failed and name parsers in the journal.  They decide nothing:
grammars of one shape, under whatever labels, accept the same texts with the same values
and fail at the same places for the same reasons.
-/

namespace Descent

variable {σ ι κ ω α : Type}

/-- Labels may differ, and parsers may be renamed on either side. -/
def Variation.renamed (leaves : κ → κ → Prop) : Variation κ where
  sameLabels := False
  leaves := leaves
  repetitions := Eq
  deferrals := Eq
  attempts := False

/-- Text grammars may also differ in the labels of symbols. -/
abbrev Variation.renamedText : Variation TextLeaf := .renamed (TextLeaf.Varies False)

def Outcome.withoutLabels (outcome : Outcome σ α) : Outcome σ α :=
  outcome.mapFailure fun failed => { failed with expected := [] }

/-- An entry without the labels in it, and without the texts made of labels. -/
def Event.withoutLabels : Event → Event
  | .hit tag value position => .hit tag value position
  | .miss tag _ position => .miss tag "" position
  | .composed _ => .composed ""
  | .warning (.stalled _ _ position) => .warning (.stalled "" "" position)
  | .warning (.tooDeep _ limit depth position) => .warning (.tooDeep "" limit depth position)
  | .trace (.matched _ value position) => .trace (.matched "" value position)
  | .trace (.missed _ _ position) => .trace (.missed "" "" position)
  | .entered _ depth => .entered "" depth
  | .exited _ => .exited ""

def Step.withoutLabels (step : Step ω (Outcome σ α)) : Step ω (Outcome σ α) :=
  ⟨step.value.withoutLabels, step.context, step.journal.map Event.withoutLabels⟩

def Comparison.renamed (σ : Type) [Cursor σ ι ω] (leaves : κ → κ → Prop) : Comparison σ κ where
  toVariation := .renamed leaves
  permits _ := True
  opens _ := True
  cap same := by rw [same]
  progress same := .inl (by rw [same])
  room _ _ _ := trivial
  depth same := .inl (by rw [same])

theorem Event.Alike.withoutLabels_eq {sameLabels : Prop} {opens : Nat → Prop}
    {first second : Event} (alike : Event.Alike sameLabels opens Eq first second) :
    first.withoutLabels = second.withoutLabels := by
  cases alike with
  | miss _ _ there => rw [there]; rfl
  | missed _ _ there => rw [there]; rfl
  | _ => rfl

namespace Comparison

variable [Cursor σ ι ω] {leaves : κ → κ → Prop}

theorem Agree.withoutLabels_eq {s : σ} {first second : Outcome σ α}
    (agree : (renamed σ leaves).Agree s first second) :
    first.withoutLabels = second.withoutLabels := by
  cases agree with
  | success => rfl
  | failure _ _ there => rw [there]; rfl

theorem Ends.withoutLabels_eq {s : σ} {depth : Nat} {first second : Step ω (Outcome σ α)}
    (ends : (renamed σ leaves).Ends depth ((renamed σ leaves).Agree s) first second) :
    second.withoutLabels = first.withoutLabels := by
  have journals : first.journal.map Event.withoutLabels =
      second.journal.map Event.withoutLabels :=
    List.forall₂_eq_eq_eq ▸ List.forall₂_map_left_iff.mpr
      (List.forall₂_map_right_iff.mpr (ends.journal.imp fun _ _ => Event.Alike.withoutLabels_eq))
  simp only [Step.withoutLabels, ends.value.withoutLabels_eq, ends.context, journals]

theorem renamed_symbolic {σ ω : Type} [SymbolCursor σ ω] :
    (renamed σ (TextLeaf.Varies False)).Symbolic where
  takeSymbol_ahead _ := trivial
  leaves varies := varies
  standard := rfl

theorem renamed_parse [Item ι] [Leaves κ σ ω] (counted : (Correspondence.counted σ).Leafwise κ)
    (leafwise : (renamed σ leaves).Leafwise) {rules rules' : Rules ι κ}
    {grammar grammar' : Grammar ι κ} (renamedRules : rules.Varies (.renamed leaves) rules')
    (renamed : grammar.Varies (.renamed leaves) grammar') (s : σ) (context : Context ω) :
    (grammar'.parse rules' s context).withoutLabels =
      (grammar.parse rules s context).withoutLabels := by
  have runs := parse_agree counted leafwise renamedRules renamed s
  exact (runs context (Nat.zero_le _) fun _ _ => trivial).withoutLabels_eq

end Comparison

/-- Grammars that differ in labels only, and in where parsers are renamed, succeed with
the same value at the same place or fail for the same reason at the same place, and their
journals differ in labels only. -/
theorem parse_withoutLabels_eq :
    (∀ {rules rules' : Rules String TextLeaf} {grammar grammar' : Grammar String TextLeaf},
      rules.Varies .renamedText rules' → grammar.Varies .renamedText grammar' →
        ∀ (s : TextCursor) (context : Context Unit),
          (grammar'.parse rules' s context).withoutLabels =
            (grammar.parse rules s context).withoutLabels) ∧
      (∀ {rules rules' : Rules String TextLeaf} {grammar grammar' : Grammar String TextLeaf},
        rules.Varies .renamedText rules' → grammar.Varies .renamedText grammar' →
          ∀ (s : TokenCursor) (context : Context TokenBuffer),
            (grammar'.parse rules' s context).withoutLabels =
              (grammar.parse rules s context).withoutLabels) ∧
      ∀ (ι : Type) [Item ι] {rules rules' : Rules ι Empty} {grammar grammar' : Grammar ι Empty},
        rules.Varies (.renamed Eq) rules' → grammar.Varies (.renamed Eq) grammar' →
          ∀ (s : SliceCursor ι) (context : Context Unit),
            (grammar'.parse rules' s context).withoutLabels =
              (grammar.parse rules s context).withoutLabels := by
  refine ⟨?_, ?_, ?_⟩
  · intro _ _ _ _ renamedRules renamed s context
    exact Comparison.renamed_parse Correspondence.counted_leafwise
      Comparison.renamed_symbolic.leafwise renamedRules renamed s context
  · intro _ _ _ _ renamedRules renamed s context
    exact Comparison.renamed_parse Correspondence.counted_leafwise
      Comparison.renamed_symbolic.leafwise renamedRules renamed s context
  · intro ι _ _ _ _ _ renamedRules renamed s context
    exact Comparison.renamed_parse Correspondence.leafwise_empty Comparison.leafwise_empty
      renamedRules renamed s context

/-- Sums of letters in brackets, once with labels everywhere and once with none; and brackets
around no letter, which fail alike under different labels. -/
theorem parse_withoutLabels_eq_sums :
    let rules : Rules String TextLeaf :=
      [("sum", .separated1 (.exact "+") (.firstOf [.leaf (.symbol "LETTER" .lower),
        .renamed "GROUP" (.between (.exact "(") (.exact ")")
          (.deferred "INNER SUM" "sum" .standard))]) .standard)]
    let rules' : Rules String TextLeaf :=
      [("sum", .separated1 (.exact "+") (.firstOf [.leaf (.symbol "" .lower),
        .between (.exact "(") (.exact ")") (.deferred "" "sum" .standard)]) .standard)]
    let grammar : Grammar String TextLeaf := .labeled "SUM" (.rule "sum")
    let grammar' : Grammar String TextLeaf := .labeled "" (.renamed "" (.rule "sum"))
    rules.Varies .renamedText rules' ∧ grammar.Varies .renamedText grammar' ∧
      (grammar'.parse rules' (TextCursor.start "a+(b+2)" .standard) ⟨(), 0⟩).withoutLabels =
        (grammar.parse rules (TextCursor.start "a+(b+2)" .standard) ⟨(), 0⟩).withoutLabels ∧
      (grammar'.parse rules' (TextCursor.start "a+(b+2)" .standard) ⟨(), 0⟩).value =
        .success (.list [.text "a"]) ⟨"a+(b+2)", 2, .standard, by decide⟩ ∧
      (grammar'.parse rules' (TextCursor.start "(2)" .standard) ⟨(), 0⟩).withoutLabels =
        (grammar.parse rules (TextCursor.start "(2)" .standard) ⟨(), 0⟩).withoutLabels ∧
      (grammar'.parse rules' (TextCursor.start "(2)" .standard) ⟨(), 0⟩).value =
        .failure ⟨"no alternative matched", [" OR BETWEEN", "SEPARATED"], .start "(2)" .standard⟩ ∧
      (grammar.parse rules (TextCursor.start "(2)" .standard) ⟨(), 0⟩).value =
        .failure ⟨"no alternative matched", ["LETTER OR GROUP", "SEPARATED", "SUM"],
          .start "(2)" .standard⟩ := by
  have free : ∀ {label other : String}, Variation.renamedText.Labels label other := False.elim
  have letter : TextLeaf.Varies False (.symbol "LETTER" .lower) (.symbol "" .lower) :=
    .symbol .lower False.elim
  refine ⟨?varies, ?same, parse_withoutLabels_eq.1 ?varies ?same _ _, by decide +kernel,
    parse_withoutLabels_eq.1 ?varies ?same _ _, by decide +kernel, by decide +kernel⟩
  case varies =>
    refine .cons ⟨rfl, .separated1 rfl (.exact "+") (.firstOf ?_)⟩ .nil
    refine .cons (.leaf letter) (.cons (.renamedFirst id ?_) .nil)
    exact .between (.exact "(") (.exact ")") (.deferred "sum" free rfl)
  case same => exact .labeled free (.renamedSecond id (.rule "sum"))

end Descent
