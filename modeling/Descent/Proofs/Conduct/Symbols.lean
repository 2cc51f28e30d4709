import Descent.Cursor.Slice
import Descent.Proofs.Conduct.Grammar
import Descent.Proofs.Cursor.Buffer
import Descent.Proofs.Cursor.Text

/-!
# Leaves of text grammars keep a conduct

A symbol is never empty and a number has at least one digit, so both move the cursor.
-/

namespace Descent.Conduct

variable {σ ω : Type} [SymbolCursor σ ω] {c : Conduct σ}

/-- What is known of text leaves, and of cursors over text. -/
structure Symbolic (σ : Type) {ω : Type} [SymbolCursor σ ω] (known : Consumption String TextLeaf) :
    Prop where
  items : Cursor.Consumes σ known.items
  symbols : SymbolCursor.Consumes σ
  leaves : known.leaves = TextLeaf.consumes
  loops : known.loops = TextLeaf.loopsConsume

theorem Parsers.symbol (symbols : SymbolCursor.Consumes σ) (label : String)
    (accepted : SymbolClass) : c.Parsers true (σ := σ) (.symbol label accepted) := by
  refine create ?_ label
  intro s
  apply (Runs.ask (SymbolCursor.takeSymbol? s accepted.accepts)).bind
  rintro taken ⟨state, rfl⟩
  have ahead := symbols s accepted.accepts state
  cases answered : (SymbolCursor.takeSymbol? s accepted.accepts state).1 with
  | none => exact .pure (.fail "" "unexpected symbol" s)
  | some taken => exact .pure (.success (ahead taken answered))

namespace Symbolic

variable {known : Consumption String TextLeaf}

theorem number (symbolic : Symbolic σ known) : c.Parsers true (Parser.number (σ := σ)) := by
  have exactly : ∀ text, c.Parsers false (σ := σ) (.exact text) := fun text =>
    (Parsers.exact symbolic.items text).weaken Bool.noConfusion
  have sign : c.Parsers false (σ := σ) (.firstOf [.exact "+", .exact "-"]) :=
    .firstOf (List.forall_mem_cons.mpr ⟨exactly "+", List.forall_mem_singleton.mpr (exactly "-")⟩)
  have digit : c.Parsers true (Parser.digit (σ := σ)) := .symbol symbolic.symbols "DIGIT" .digit
  have parts : c.Parsers true (Parser.numberParts (σ := σ)) :=
    ((sign.optional.both (digit.many1 (.inr rfl) .standard)).both (exactly ".").optional).both
      (digit.many (.inr rfl) .standard)
  exact (parts.tryMap _ _).labeled "NUMBER"

theorem shape (symbolic : Symbolic σ known) (shape : Shape)
    (demands : c.stalls ∨ shape.loopsConsume = true) (name : Option String) :
    c.Parsers shape.consumes (shape.build name : Parser σ ω Value) := by
  induction shape generalizing name with
  | number => exact (symbolic.number.called name).map _
  | optional shape ih => exact ((ih demands none).optional.called name).map _
  | sequence shape ih =>
      rw [Shape.loopsConsume, Bool.and_eq_true] at demands
      have items := ih (demands.imp_right And.right) none
      exact ((items.many (demands.imp_right And.left) .standard).called name).map _
  | boxed shape ih => exact ((ih demands none).map id).called name

theorem leafwise (symbolic : Symbolic σ known) : c.Leafwise (σ := σ) known := by
  intro name content demands
  rw [symbolic.loops] at demands
  rw [symbolic.leaves]
  cases content with
  | space => exact ((Parsers.symbol symbolic.symbols "SPACE" .blank).called name).map _
  | letter => exact ((Parsers.symbol symbolic.symbols "LETTER" .word).called name).map _
  | digit => exact ((Parsers.symbol symbolic.symbols "DIGIT" .digit).called name).map _
  | number => exact (symbolic.number.called name).map _
  | symbol label accepted =>
      exact ((Parsers.symbol symbolic.symbols label accepted).called name).map _
  | typed shape => exact symbolic.shape shape demands name

end Symbolic

end Descent.Conduct

namespace Descent

variable {ι : Type} (inPlace deferred : String → Bool)

namespace TextCursor

theorem length_le_of_startsWith {s : TextCursor} {expected : List Char}
    (starts : s.startsWith expected = true) : expected.length ≤ s.unread.length := by
  unfold startsWith at starts
  split at starts
  · rw [Bool.and_eq_true, beq_iff_eq, List.length_take] at starts
    omega
  · exact (List.isPrefixOf_iff_prefix.mp starts).length_le

/-- Characters that are there have bytes. -/
theorem ahead_pass (s : TextCursor) {count : Nat} (there : count ≤ s.unread.length) :
    Cursor.Ahead (decide (0 < count)) s (s.pass count).2 := by
  constructor
  · exact s.offset_le_pass count
  · intro some
    have some : 0 < count := of_decide_eq_true some
    have bytes : Text.byteCount (s.unread.take count) ≠ 0 := by
      intro none
      have lengths := congrArg List.length (Text.byteCount_eq_zero none)
      rw [List.length_take, List.length_nil] at lengths
      omega
    exact Nat.lt_add_of_pos_right (Nat.pos_of_ne_zero bytes)

theorem consumes : Cursor.Consumes TextCursor fun item => !item.isEmpty where
  take s item _ taken success := by
    change s.take? item = some taken at success
    have there : item.toList.length ≤ s.unread.length := by
      rw [take?_eq] at success
      exact length_le_of_startsWith (Option.ite_none_right_eq_some.mp success).1
    rw [of_take? success]
    refine (s.ahead_pass there).weaken ?_
    intro named
    rw [decide_eq_true_eq, List.length_pos_iff]
    intro empty
    rw [String.toList_eq_nil_iff] at empty
    simp [empty] at named
  peek s _ item shown := by
    obtain ⟨c, _, rfl⟩ := Option.map_eq_some_iff.mp shown
    simp

theorem symbols_consume : SymbolCursor.Consumes TextCursor := by
  intro s accept _ taken success
  change s.takeSymbol? accept = some taken at success
  have there : 1 ≤ s.unread.length := by
    rw [takeSymbol?_eq] at success
    have accepted := (Option.ite_none_right_eq_some.mp success).1
    cases unread : s.unread with
    | nil => simp [unread] at accepted
    | cons => simp
  rw [of_takeSymbol? success]
  exact s.ahead_pass there

theorem symbolic : Conduct.Symbolic TextCursor (.ofText inPlace deferred) :=
  ⟨consumes, symbols_consume, rfl, rfl⟩

end TextCursor

namespace TokenCursor

theorem takeIf?_consumes (s : TokenCursor) (condition : String → Bool) (buffer : TokenBuffer) :
    ∀ taken ∈ (s.takeIf? condition buffer).1, Cursor.Ahead true s taken.2 := by
  intro taken success
  rw [(of_takeIf? success).1]
  exact ⟨Nat.le_succ _, fun _ => Nat.lt_succ_self _⟩

theorem consumes : Cursor.Consumes TokenCursor fun _ => true where
  take s _ buffer := s.takeIf?_consumes _ buffer
  peek _ _ _ _ := rfl

theorem symbolic : Conduct.Symbolic TokenCursor (.ofTokens inPlace deferred) :=
  ⟨consumes, fun s _ buffer => s.takeIf?_consumes _ buffer, rfl, rfl⟩

end TokenCursor

theorem SliceCursor.consumes : Cursor.Consumes (SliceCursor ι) fun _ => true where
  take s _ _ taken success := by
    rw [(of_take? success).1]
    exact ⟨Nat.le_succ _, fun _ => Nat.lt_succ_self _⟩
  peek _ _ _ _ := rfl

end Descent
