import Descent.Proofs.Conduct.Guards
import Descent.Proofs.Conduct.Symbols

/-!
# Consumption is told from grammars

Whether the successes of a grammar consume something can be told without running it, also
where rules refer to each other in a circle: what is assumed of a rule need not hold before
the rule is run, as it is run one level down.  Repetitions whose items consume never stall,
so their guards can as well be left out.
-/

namespace Descent

variable {σ ι κ ω : Type}

/-- Any failure is fine. -/
def Conduct.ofStalls (σ : Type) (stalls : Prop) : Conduct σ where
  failures _ := True
  stalls := stalls
  report _ _ _ := trivial
  relabel _ _ := trivial
  rewind _ _ := trivial

/-- What a grammar that is found to consume does, and one in which the items of all
repetitions are. -/
structure Grammar.Consuming (σ : Type) {ι κ ω : Type} [Cursor σ ι ω] [Item ι] [Leaves κ σ ω]
    (known : Consumption ι κ) (rules : Rules ι κ) (grammar : Grammar ι κ) : Prop where
  moves : grammar.consumes known = true →
    ∀ {s rest : σ} {context : Context ω} {value : Value},
      (grammar.parse rules s context).value = .success value rest →
        Cursor.position s < Cursor.position rest
  silent : (∀ part ∈ grammar.parts ++ rules.parts, part.loopConsumes known = true) →
    ∀ (s : σ) (context : Context ω),
      ∀ event ∈ (grammar.parse rules s context).journal, event.isStall = false
  /-- The guards of any repetitions can be on or off. -/
  unguarded : (∀ part ∈ grammar.parts ++ rules.parts, part.loopConsumes known = true) →
    ∀ {rules' : Rules ι κ} {grammar' : Grammar ι κ}, rules.Varies (.guards κ) rules' →
      grammar.Varies (.guards κ) grammar' →
        ∀ s : σ, grammar'.parse rules' s = grammar.parse rules s

theorem Grammar.consuming [Cursor σ ι ω] [Item ι] [Leaves κ σ ω] {known : Consumption ι κ}
    (counted : (Correspondence.counted σ).Leafwise κ) (items : Cursor.Consumes σ known.items)
    (leaves : ∀ c : Conduct σ, c.Leafwise known) {rules : Rules ι κ} (borne : rules.BearOut known)
    (grammar : Grammar ι κ) : grammar.Consuming σ known rules where
  moves consumes s rest context value success := by
    have demands : (Conduct.ofStalls σ True).Demands known (grammar.parts ++ rules.parts) :=
      fun _ _ => .inl trivial
    obtain ⟨rests, _⟩ := Conduct.parse_keeps items (leaves _) borne demands s context
    rw [success] at rests
    cases rests with
    | success moved => exact moved.lt consumes
  silent consume s context event member := by
    have demands : (Conduct.ofStalls σ False).Demands known (grammar.parts ++ rules.parts) :=
      fun part member => .inr (consume part member)
    obtain ⟨_, quiet⟩ := Conduct.parse_keeps items (leaves _) borne demands s context
    exact Bool.eq_false_iff.mpr (quiet event member)
  unguarded consume _ _ variesRules varies s := by
    have demands : (Conduct.ofStalls σ False).Demands known (grammar.parts ++ rules.parts) :=
      fun part member => .inr (consume part member)
    exact Conduct.parse_guards items (leaves _) borne id counted demands variesRules varies s

/-- A grammar that is found to consume moves the cursor whenever it succeeds, over all kinds
of input; if all repetitions are of such items, none of them ever stalls, and all their
guards can be on or off. -/
theorem parse_consuming :
    (∀ {rules : Rules String TextLeaf} {inPlace deferred : String → Bool},
      rules.BearOut (.ofText inPlace deferred) → ∀ grammar : Grammar String TextLeaf,
        grammar.Consuming TextCursor (.ofText inPlace deferred) rules) ∧
      (∀ {rules : Rules String TextLeaf} {inPlace deferred : String → Bool},
        rules.BearOut (.ofTokens inPlace deferred) → ∀ grammar : Grammar String TextLeaf,
          grammar.Consuming TokenCursor (.ofTokens inPlace deferred) rules) ∧
      ∀ (ι : Type) [Item ι] {rules : Rules ι Empty} {inPlace deferred : String → Bool},
        rules.BearOut (.ofItems inPlace deferred) → ∀ grammar : Grammar ι Empty,
          grammar.Consuming (SliceCursor ι) (.ofItems inPlace deferred) rules := by
  refine ⟨?_, ?_, ?_⟩
  · intro rules inPlace deferred borne grammar
    have symbolic := TextCursor.symbolic inPlace deferred
    exact grammar.consuming Correspondence.counted_leafwise symbolic.items
      (fun _ => symbolic.leafwise) borne
  · intro rules inPlace deferred borne grammar
    have symbolic := TokenCursor.symbolic inPlace deferred
    exact grammar.consuming Correspondence.counted_leafwise symbolic.items
      (fun _ => symbolic.leafwise) borne
  · intro ι _ rules inPlace deferred borne grammar
    exact grammar.consuming Correspondence.leafwise_empty SliceCursor.consumes
      (fun _ => Conduct.leafwise_empty) borne

/-- Lists of digits and lists, in which the rule of lists is assumed to consume. -/
theorem parse_consuming_lists :
    let rules : Rules String TextLeaf :=
      [("list", .between (.exact "(") (.exact ")")
        (.many (.firstOf [.leaf .digit, .deferred "LIST" "list" .standard]) .standard))]
    let known : Consumption String TextLeaf := .ofText (· == "list") (· == "list")
    let grammar : Grammar String TextLeaf := .many1 (.rule "list") .standard
    rules.BearOut known ∧ grammar.consumes known = true ∧
      (∀ part ∈ grammar.parts ++ rules.parts, part.loopConsumes known = true) ∧
      grammar.Consuming TextCursor known rules := by
  intro rules known grammar
  have borne : rules.BearOut known := by
    intro name body found listed
    have named : name = "list" := by simpa [known, Consumption.ofText] using listed
    subst named
    cases found
    decide
  have loops : ∀ part ∈ grammar.parts ++ rules.parts, part.loopConsumes known = true := by
    decide
  exact ⟨borne, by decide, loops, parse_consuming.1 borne grammar⟩

/-- It is not enough that a rule consumes if all deferred rules are assumed to: the rule that
it defers to may consume nothing. -/
theorem not_consuming_of_assumed :
    ¬∀ (rules : Rules String TextLeaf) (inPlace : String → Bool),
      (∀ name body, rules.lookup name = some body → inPlace name = true →
        body.consumes (.ofText inPlace fun _ => true) = true) →
      ∀ (label name : String) (limits : Limits) (body : Grammar String TextLeaf),
        rules.lookup name = some body →
          body.consumes (.ofText inPlace fun _ => true) = true →
            ∀ (s rest : TextCursor) (context : Context Unit) (value : Value),
              ((Grammar.deferred label name limits).parse rules s context).value =
                  .success value rest →
                Cursor.position s < Cursor.position rest := by
  intro claimed
  let rules : Rules String TextLeaf :=
    [("a", .deferred "M" "b" .standard), ("b", .succeed "P" .absent)]
  have moves := claimed rules (fun _ => false) (fun _ _ _ => Bool.noConfusion) "L" "a" .standard
    (.deferred "M" "b" .standard) rfl rfl (.start "x" .standard) (.start "x" .standard) ⟨(), 0⟩
    .absent rfl
  exact Nat.lt_irrefl _ moves

end Descent
