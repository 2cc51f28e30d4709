import Mathlib
import Descent.Cursor.Slice
import Descent.Grammar.Leaves
import Descent.Proofs.Correspondence.Grammar
import Descent.Proofs.Cursor.Buffer
import Descent.Proofs.Cursor.Text
import Descent.Proofs.Lossless.Grammar

/-!
# Parses that lose nothing

Values of grammars that lose nothing hold exactly what was read between the cursor where
the parse started and the one where it came to rest, in the input's own spelling.
-/

namespace Descent

variable {σ ι κ ω : Type}

def TextLeaf.isSymbol : TextLeaf → Bool
  | .space | .letter | .digit | .symbol _ _ => true
  | .number | .typed _ => false

namespace Reading

section

variable [Cursor σ ι ω] [Item ι] [Leaves κ σ ω] {reading : Reading σ} {leaves : κ → Bool}

theorem leafwise_empty {reading : Reading σ} (leaves : Empty → Bool) : reading.Leafwise leaves :=
  fun content => nomatch content

theorem Runs.adopt {α : Type} {good : α → Prop} {logged : Logged α} (holds : good logged.value) :
    reading.Runs good (Run.adopt logged : Run ω α) :=
  fun _ shared => ⟨holds, shared⟩

theorem parse_carries (leafwise : reading.Leafwise leaves) {rules : Rules ι κ}
    {grammar : Grammar ι κ}
    (kept : ∀ part ∈ grammar.parts ++ rules.parts, part.isLossless leaves = true) (s : σ) :
    reading.Runs (reading.Carries s Value.atoms) (grammar.parse rules s) := by
  rw [List.forall_mem_append] at kept
  have built := build_lossless leafwise
    (scope_lossless leafwise kept.2 (Grammar.levels rules grammar)) kept.1 none
  apply Runs.bind (.adopt built)
  intro p lossless
  exact lossless.parse s

theorem reads_of_success (leafwise : reading.Leafwise leaves) {rules : Rules ι κ}
    {grammar : Grammar ι κ}
    (kept : ∀ part ∈ grammar.parts ++ rules.parts, part.isLossless leaves = true) {s rest : σ}
    {context : Context ω} (shared : reading.shared context.shared) {value : Value}
    (success : (grammar.parse rules s context).value = .success value rest) :
    reading.reads s value.atoms rest := by
  have carries := (parse_carries leafwise kept s context shared).1
  rwa [success] at carries

end

def Symbolic [SymbolCursor σ ω] (reading : Reading σ) : Prop :=
  ∀ (s : σ) (accept : Char → Bool) state, reading.shared state →
    reading.shared (SymbolCursor.takeSymbol? s accept state).2 ∧
      ∀ taken ∈ (SymbolCursor.takeSymbol? s accept state).1,
        reading.reads s [.text taken.1] taken.2

namespace Symbolic

variable [SymbolCursor σ ω] {reading : Reading σ}

theorem symbol (symbolic : reading.Symbolic) (label : String) (accepted : SymbolClass) :
    reading.Lossless (fun text => [.text text]) (.symbol label accepted) := by
  apply Lossless.create
  intro s
  have asked : reading.Runs
      (fun answer => ∀ taken ∈ answer, reading.reads s [.text taken.1] taken.2)
      (Run.ask (SymbolCursor.takeSymbol? s accepted.accepts)) :=
    .ask (symbolic s accepted.accepts)
  apply asked.bind
  intro answer read
  cases answer with
  | some taken => exact .pure (read taken rfl)
  | none => exact .pure trivial

theorem leafwise (symbolic : reading.Symbolic) : reading.Leafwise TextLeaf.isSymbol := by
  have text : ∀ {p : Parser σ ω String}, reading.Lossless (fun text => [.text text]) p →
      ∀ name, reading.Lossless Value.atoms ((p.called name).map .text) :=
    fun lossless name => (lossless.called name).map fun _ => rfl
  intro content own name
  cases content with
  | space => exact text (symbolic.symbol "SPACE" .blank) name
  | letter => exact text (symbolic.symbol "LETTER" .word) name
  | digit => exact text (symbolic.symbol "DIGIT" .digit) name
  | symbol label accepted => exact text (symbolic.symbol label accepted) name
  | number | typed => simp [TextLeaf.isSymbol] at own

end Symbolic

end Reading

namespace TextCursor

/-- The texts in the atoms are what comes before the unread rest. -/
def reading : Reading TextCursor where
  shared _ := True
  reads s atoms r := String.join (atoms.flatMap Value.strings) ++ r.rest = s.rest
  nil s := by simp
  append {s r t first second} before after := by
    rw [List.flatMap_append, String.join_append, String.append_assoc, after, before]
  atEnd _ _ _ := trivial
  peek _ _ _ := trivial
  take s item _ _ := by
    refine ⟨trivial, ?_⟩
    intro taken success
    have passed := s.pass_rest item.toList.length
    rw [of_take? success]
    simpa [Item.toValue, Value.atoms, Value.strings] using passed

theorem reading_symbolic : reading.Symbolic := by
  intro s accept _ _
  refine ⟨trivial, ?_⟩
  intro taken success
  have passed := s.pass_rest 1
  rw [of_takeSymbol? success]
  simpa [reading, Value.strings] using passed

end TextCursor

/-- The items from one index to another one, each of which is there. -/
structure Spans (items : Supply ι) (first last : Nat) (span : List ι) : Prop where
  eq_extract : span = items.extract first last
  count : first + span.length = last

namespace Spans

variable {items : Supply ι}

theorem nil (index : Nat) : Spans items index index [] :=
  ⟨by rw [Supply.extract, Nat.sub_self]; rfl, rfl⟩

theorem append {first middle last : Nat} {before after : List ι}
    (earlier : Spans items first middle before) (later : Spans items middle last after) :
    Spans items first last (before ++ after) := by
  have ends : last = first + (before.length + after.length) := by
    rw [← Nat.add_assoc, earlier.count, later.count]
  refine ⟨?_, by rw [List.length_append, ends]⟩
  have front := earlier.eq_extract
  have back := later.eq_extract
  rw [Supply.extract, ← earlier.count, Nat.add_sub_cancel_left] at front
  rw [Supply.extract, ← later.count, Nat.add_sub_cancel_left, ← earlier.count] at back
  calc before ++ after
      = (items.drop first).take before.length ++
          (items.drop (first + before.length)).take after.length := by rw [← front, ← back]
    _ = (items.drop first).take (before.length + after.length) := by
      rw [Supply.take_add, Supply.drop_drop]
    _ = items.extract first last := by
      rw [Supply.extract, ends, Nat.add_sub_cancel_left]

theorem single {index : Nat} {item : ι} (present : items[index]? = some item) :
    Spans items index (index + 1) [item] := by
  refine ⟨?_, rfl⟩
  rw [Supply.extract, Nat.add_sub_cancel_left, Supply.take_one, Supply.getElem?_drop,
    Nat.add_zero, present]
  rfl

end Spans

namespace TokenCursor

variable {tokens : Supply String}

theorem spans_of_takeIf? (s : TokenCursor) (condition : String → Bool) {buffer : TokenBuffer}
    (holds : buffer.contents = tokens) :
    (s.takeIf? condition buffer).2.contents = tokens ∧
      ∀ taken ∈ (s.takeIf? condition buffer).1, Spans tokens s.index taken.2.index [taken.1] := by
  refine ⟨(s.contents_takeIf? condition buffer).trans holds, ?_⟩
  intro taken success
  rw [takeIf?_eq, holds] at success
  obtain ⟨token, found, rfl⟩ := Option.map_eq_some_iff.mp success
  exact .single (Option.filter_eq_some_iff.mp found).1

/-- The atoms are the tokens between two indices. -/
def reading (tokens : Supply String) : Reading TokenCursor where
  shared buffer := buffer.contents = tokens
  reads s atoms r := ∃ span, Spans tokens s.index r.index span ∧ atoms = span.map .text
  nil s := ⟨[], .nil _, rfl⟩
  append before after := by
    obtain ⟨span, spans, rfl⟩ := before
    obtain ⟨span', spans', rfl⟩ := after
    exact ⟨span ++ span', spans.append spans', List.map_append.symm⟩
  atEnd s buffer holds := (s.contents_atEnd buffer).trans holds
  peek s buffer holds := (s.contents_peek? buffer).trans holds
  take s _ _ holds := by
    obtain ⟨kept, spans⟩ := s.spans_of_takeIf? _ holds
    exact ⟨kept, fun taken success => ⟨[taken.1], spans taken success, rfl⟩⟩

theorem reading_symbolic : (reading tokens).Symbolic := by
  intro s _ _ holds
  obtain ⟨kept, spans⟩ := s.spans_of_takeIf? _ holds
  exact ⟨kept, fun taken success => ⟨[taken.1], spans taken success, rfl⟩⟩

end TokenCursor

/-- The atoms are those of the items between two indices. -/
def SliceCursor.reading (ι : Type) [Item ι] : Reading (SliceCursor ι) where
  shared _ := True
  reads s atoms r := r.items = s.items ∧
    ∃ span, Spans (.ofList s.items.toList) s.index r.index span ∧
      atoms = span.flatMap fun item => (Item.toValue item).atoms
  nil s := ⟨rfl, [], .nil _, rfl⟩
  append {s r t _ _} before after := by
    obtain ⟨same, span, spans, rfl⟩ := before
    obtain ⟨same', span', spans', rfl⟩ := after
    rw [same] at spans'
    exact ⟨same'.trans same, span ++ span', spans.append spans', List.flatMap_append.symm⟩
  atEnd _ _ _ := trivial
  peek _ _ _ := trivial
  take s item _ _ := by
    refine ⟨trivial, ?_⟩
    intro taken success
    change s.take? item = some taken at success
    rw [SliceCursor.take?_eq] at success
    obtain ⟨item, found, rfl⟩ := Option.map_eq_some_iff.mp success
    have present := (Option.filter_eq_some_iff.mp found).1
    rw [← Array.getElem?_toList] at present
    exact ⟨rfl, [item], .single present, by simp⟩

/-- Grammars that neither drop nor make up values lose nothing.  Over a text, the strings
in the value followed by the unread rest are what was unread before; over tokens and other
items, the atoms of the value are the items between the two places. -/
theorem parse_lossless :
    (∀ {rules : Rules String TextLeaf} {grammar : Grammar String TextLeaf},
      (∀ part ∈ grammar.parts ++ rules.parts, part.isLossless TextLeaf.isSymbol = true) →
        ∀ {s rest : TextCursor} {context : Context Unit} {value : Value},
          (grammar.parse rules s context).value = .success value rest →
            value.concat ++ rest.rest = s.rest) ∧
      (∀ {rules : Rules String TextLeaf} {grammar : Grammar String TextLeaf},
        (∀ part ∈ grammar.parts ++ rules.parts, part.isLossless TextLeaf.isSymbol = true) →
          ∀ {s rest : TokenCursor} {context : Context TokenBuffer} {value : Value},
            (grammar.parse rules s context).value = .success value rest →
              value.atoms = (context.shared.contents.extract s.index rest.index).map .text ∧
                s.index + value.atoms.length = rest.index) ∧
      ∀ (ι : Type) [Item ι], (∀ item : ι, (Item.toValue item).atoms = [Item.toValue item]) →
        ∀ {rules : Rules ι Empty} {grammar : Grammar ι Empty},
          (∀ part ∈ grammar.parts ++ rules.parts, part.isLossless (fun _ => true) = true) →
            ∀ {s rest : SliceCursor ι} {context : Context Unit} {value : Value},
              (grammar.parse rules s context).value = .success value rest →
                value.atoms = (s.items.toList.extract s.index rest.index).map Item.toValue ∧
                  s.index + value.atoms.length = rest.index := by
  refine ⟨?_, ?_, ?_⟩
  · intro rules grammar kept s rest context value success
    have read := Reading.reads_of_success TextCursor.reading_symbolic.leafwise kept trivial success
    rw [Value.concat, value.strings_eq]
    exact read
  · intro rules grammar kept s rest context value success
    have leafwise : (TokenCursor.reading context.shared.contents).Leafwise TextLeaf.isSymbol :=
      TokenCursor.reading_symbolic.leafwise
    obtain ⟨span, spans, same⟩ := Reading.reads_of_success leafwise kept rfl success
    rw [same, ← spans.eq_extract, List.length_map]
    exact ⟨rfl, spans.count⟩
  · intro ι _ atomic rules grammar kept s rest context value success
    have leafwise : (SliceCursor.reading ι).Leafwise fun _ => true := Reading.leafwise_empty _
    obtain ⟨_, span, spans, same⟩ := Reading.reads_of_success leafwise kept trivial success
    simp only [atomic, ← List.map_eq_flatMap] at same
    rw [same, ← Supply.extract_ofList, ← spans.eq_extract, List.length_map]
    exact ⟨rfl, spans.count⟩

/-- A text is kept as it was written though its case is ignored, and integers with the
signs that their comparison ignores. -/
theorem parse_lossless_ignoring :
    let letters : Grammar String TextLeaf :=
      .many (.firstOf [.attempt (.both (.exact "a") (.exact "b")), .exact "a"]) .standard
    let text : TextCursor := .start "aAbc" ⟨true⟩
    let rules : Rules Int Empty :=
      [("twos", .both (.exact 2) (.optional (.deferred "" "twos" .standard)))]
    let integers : SliceCursor Int := .start #[2, -2, 1] Comparison.sameMagnitude
    (∀ part ∈ letters.parts ++ Rules.parts [], part.isLossless TextLeaf.isSymbol = true) ∧
      (letters.parse [] text ⟨(), 0⟩).value =
        .success (.list [.text "a", .tuple [.text "A", .text "b"]]) ⟨"aAbc", 3, ⟨true⟩, by decide⟩ ∧
      (Value.list [.text "a", .tuple [.text "A", .text "b"]]).concat ++ "c" = "aAbc" ∧
      (∀ n : Int, (Item.toValue n).atoms = [Item.toValue n]) ∧
      (∀ part ∈ (Grammar.rule "twos").parts ++ rules.parts,
        part.isLossless (fun _ => true) = true) ∧
      ((Grammar.rule "twos").parse rules integers ⟨(), 0⟩).value =
        .success (.tuple [.int 2, .present (.tuple [.int (-2), .absent])])
          ⟨#[2, -2, 1], 2, Comparison.sameMagnitude⟩ ∧
      (Value.tuple [.int 2, .present (.tuple [.int (-2), .absent])]).atoms =
        ([2, -2] : List Int).map Item.toValue := by
  refine ⟨?kept, ?success, parse_lossless.1 ?kept ?success, ?atomic, ?kept', ?success',
    (parse_lossless.2.2 Int ?atomic ?kept' ?success').1⟩
  case kept => decide
  case success => decide +kernel
  case atomic => exact fun n => by simp [Item.toValue, Value.atoms]
  case kept' => decide
  case success' => cbv

end Descent
