import Descent.Proofs.Iterations
import Descent.Proofs.Separation

/-!
# Repetitions of options and of repetitions

Where an optional item yields nothing it has not moved either, so a guarded repetition of
options ends where the repetition of the items ends.  A guarded repetition of repetitions
reads the same items, cut into chunks of as many as the inner cap allows: it ends when the
inner repetition stalls where it came to rest before.
-/

namespace Descent

variable {σ ι κ ω α β : Type}

/-- A list is cut into chunks of a size, of which the last one may be shorter. -/
inductive Cut (size : Nat) : List α → List (List α) → Prop where
  | nil : Cut size [] []
  | last {values : List α} : values ≠ [] → values.length ≤ size → Cut size values [values]
  | next {values : List α} {chunks : List (List α)} : size < values.length →
      Cut size (values.drop size) chunks → Cut size values (values.take size :: chunks)

namespace Cut

variable {size : Nat} {values : List α} {chunks : List (List α)}

/-- Values that fit into one chunk are one chunk, if there are any. -/
theorem eq_of_length_le (cut : Cut size values chunks) (few : values.length ≤ size) :
    chunks = if values = [] then [] else [values] := by
  cases cut with
  | nil => rfl
  | last some => rw [if_neg some]
  | next many => omega

/-- One more chunk in front of those of the further values. -/
theorem cons (some : values ≠ []) (cut : Cut size (values.drop size) chunks) :
    Cut size values (values.take size :: chunks) := by
  by_cases few : values.length ≤ size
  · rw [List.drop_of_length_le few] at cut
    obtain rfl : chunks = [] := cut.eq_of_length_le (Nat.zero_le size)
    rw [List.take_of_length_le few]
    exact .last some few
  · exact .next (Nat.not_le.mp few) cut

end Cut

variable [Cursor σ ι ω]

namespace Parser

/-- What an option makes of the outcome of its parser, with the value turned into another one. -/
theorem parse_map_optional {p : Parser σ ω α} {s : σ} {context after : Context ω}
    {journal : Journal} {outcome : Outcome σ α} (f : Option α → β)
    (came : p.parse s context = ⟨outcome, after, journal⟩) :
    (p.optional.map f).parse s context =
      ⟨outcome.fold (fun value rest => .success (f (some value)) rest)
        fun _ => .success (f none) s, after, journal⟩ := by
  simp only [parse] at came
  simp only [parse, map, optional, Run.map_apply, Run.bind_apply, came]
  cases outcome <;> simp [Run.pure_apply, Outcome.map, Outcome.fold]

/-- A guarded repetition of options stalls where one of the items ends, and comes to as many
values. -/
theorem collect_map_optional (p : Parser σ ω α) (f : Option α → β) (label : String) (cap : Nat)
    (s : σ) (context : Context ω) :
    let plain := p.collect label true cap s context
    ((p.optional.map f).collect label true cap s context).value =
      (plain.value.1.map (f ∘ some), plain.value.2) := by
  induction cap generalizing s context with
  | zero => rfl
  | succ cap ih =>
      rcases came : p.parse s context with ⟨outcome, after, journal⟩
      have option := parse_map_optional f came
      cases outcome with
      | failure failed =>
          rw [collect_failed came, collect_stalled option rfl rfl]
          rfl
      | success value rest =>
          by_cases stuck : Cursor.position rest = Cursor.position s
          · rw [collect_stalled came rfl stuck, collect_stalled option rfl stuck]
            rfl
          · rw [collect_moved came fun _ => stuck, collect_moved option fun _ => stuck]
            simp only [ih rest after, List.map_cons, Function.comp_apply]

theorem many_value (p : Parser σ ω α) (limits : Limits) (s : σ) (context : Context ω) :
    let collected :=
      p.collect "ZERO OR MANY" limits.requireProgress limits.maxRepetitions s context
    ((p.many limits).parse s context).value = .success collected.value.1 collected.value.2 := rfl

theorem many_map_optional (p : Parser σ ω α) (f : Option α → β) {limits : Limits}
    (guard : limits.requireProgress = true) (s : σ) (context : Context ω) :
    ∃ values last, ((p.many limits).parse s context).value = .success values last ∧
      (((p.optional.map f).many limits).parse s context).value =
        .success (values.map (f ∘ some)) last := by
  have collected := p.collect_map_optional f "ZERO OR MANY" limits.maxRepetitions s context
  refine ⟨_, _, p.many_value limits s context, ?_⟩
  rw [many_value, guard, collected]

/-- A repetition of repetitions that may have no item stalls at once. -/
theorem many_map_many_nothing (p : Parser σ ω α) (f : List α → β) {limits outer : Limits}
    (guard : outer.requireProgress = true) (none : limits.maxRepetitions = 0) (s : σ)
    (context : Context ω) :
    ((((p.many limits).map f).many outer).parse s context).value = .success [] s := by
  have inner : ((p.many limits).map f).parse s context = ⟨.success (f []) s, context, []⟩ := by
    simp only [parse, map, many, none, collect, Run.map_apply, Run.pure_apply, Outcome.map]
  rw [many_value]
  cases outer.maxRepetitions with
  | zero => rfl
  | succ cap => rw [collect_stalled inner guard rfl]

end Parser

/-- The value and the place of a success. -/
def Outcome.success? : Outcome σ α → Option (α × σ)
  | .success value rest => some (value, rest)
  | .failure _ => none

variable {there : σ → Prop} {settled : Context ω → Prop} {s last : σ} {values : List α}

namespace Parser

theorem readsRound {p : Parser σ ω α} {results : σ → Outcome σ α}
    (treads : Treads there settled p.parse results) :
    p.ReadsRound there settled fun s => (results s).success? where
  refuses {s} here missed := by
    have settles := treads.settles here
    cases came : results s with
    | failure failed => exact ⟨failed, came ▸ settles⟩
    | success value rest => simp [came, Outcome.success?] at missed
  reads {s value next} here came := by
    have settles := treads.settles here
    cases read : results s with
    | failure failed => simp [read, Outcome.success?] at came
    | success value rest =>
        simp only [read, Outcome.success?, Option.some.injEq, Prod.mk.injEq] at came
        obtain ⟨rfl, rfl⟩ := came
        exact read ▸ settles
  onward {s value next} here came := by
    have stays := treads.stays here
    have forward := treads.forward here
    cases read : results s with
    | failure failed => simp [read, Outcome.success?] at came
    | success value rest =>
        simp only [read, Outcome.success?, Option.some.injEq, Prod.mk.injEq] at came
        obtain ⟨rfl, rfl⟩ := came
        rw [read] at stays forward
        exact ⟨stays, forward⟩

/-- Where a repetition with a cap comes to rest: it has the first of the values that there
are from its start on, and the further ones are there. -/
structure Pauses (q : Parser σ ω α) (there : σ → Prop) (settled : Context ω → Prop)
    (round : σ → Option (α × σ)) (cap : Nat) (s : σ) (values : List α) (last place : σ) :
    Prop where
  stays : there place
  collects : ∀ label, (q.collect label true cap s).Settles settled (values.take cap, place)
  further : Rounds round place (values.drop cap) last
  forward : Cursor.position s ≤ Cursor.position place
  moved : values.take cap ≠ [] → Cursor.position s < Cursor.position place
  unmoved : values.take cap = [] → place = s

variable {q : Parser σ ω α} {round : σ → Option (α × σ)}

/-- Without a value a repetition pauses where it is. -/
theorem Pauses.here {cap : Nat} (here : there s) (rounds : Rounds round s [] last)
    (collects : ∀ label, (q.collect label true cap s).Settles settled ([], s)) :
    q.Pauses there settled round cap s [] last s where
  stays := here
  collects label := by
    rw [List.take_nil]
    exact collects label
  further := by
    rw [List.drop_nil]
    exact rounds
  forward := Nat.le_refl _
  moved some := absurd List.take_nil some
  unmoved _ := rfl

theorem ReadsRound.exists_pauses (reads : q.ReadsRound there settled round)
    (rounds : Rounds round s values last) (here : there s) (cap : Nat) :
    ∃ place, q.Pauses there settled round cap s values last place := by
  induction rounds generalizing cap with
  | @refused s missed =>
      obtain ⟨failed, fails⟩ := reads.refuses here missed
      exact ⟨s, .here here (.refused missed) fun _ => collect_stops fails⟩
  | @stalled s next value came stuck =>
      exact ⟨s, .here here (.stalled came stuck) fun _ =>
        collect_stalls (reads.reads here came) stuck⟩
  | @next s next last value values came moved rounds ih =>
      cases cap with
      | zero =>
          exact ⟨s, here, fun _ => .pure _, .next came moved rounds, Nat.le_refl _,
            (absurd rfl ·), fun _ => rfl⟩
      | succ cap =>
          obtain ⟨there', ahead⟩ := reads.onward here came
          obtain ⟨place, pauses⟩ := ih there' cap
          have further : Cursor.position s < Cursor.position place := by
            have forward := pauses.forward
            omega
          exact ⟨place, pauses.stays,
            fun label => collect_goes (reads.reads here came) moved (pauses.collects label),
            pauses.further, further.le, fun _ => further, nofun⟩

variable {limits : Limits}

/-- A repetition of repetitions collects the values of one repetition in chunks. -/
theorem ReadsRound.collect_chunks (reads : q.ReadsRound there settled round)
    (guard : limits.requireProgress = true) (some : 0 < limits.maxRepetitions) (f : List α → β)
    (rounds : Rounds round s values last) (here : there s) {cap : Nat}
    (enough : values.length ≤ cap) (label : String) :
    ∃ chunks, Cut limits.maxRepetitions values chunks ∧
      (((q.many limits).map f).collect label true cap s).Settles settled (chunks.map f, last) := by
  induction length : values.length using Nat.strongRecOn generalizing s values cap with
  | _ length ih =>
      subst length
      obtain ⟨place, pauses⟩ := reads.exists_pauses rounds here limits.maxRepetitions
      have inner : (((q.many limits).map f).parse s).Settles settled
          (.success (f (values.take limits.maxRepetitions)) place) := by
        have collects := pauses.collects (q.many limits).label
        rw [← guard] at collects
        exact map_settles f (many_settles collects)
      by_cases none : values = []
      · subst none
        obtain rfl : place = s := pauses.unmoved List.take_nil
        obtain rfl : last = place := by
          cases rounds <;> rfl
        exact ⟨[], .nil, collect_stalls inner rfl⟩
      · have taken : values.take limits.maxRepetitions ≠ [] := by
          simp only [ne_eq, List.take_eq_nil_iff, none, or_false]
          omega
        have shorter : (values.drop limits.maxRepetitions).length < values.length := by
          have positive := List.length_pos_iff.mpr none
          rw [List.length_drop]
          omega
        cases cap with
        | zero => exact absurd (List.eq_nil_of_length_eq_zero (Nat.le_zero.mp enough)) none
        | succ cap =>
            obtain ⟨chunks, cut, later⟩ := ih _ shorter pauses.further pauses.stays
              (by omega : (values.drop limits.maxRepetitions).length ≤ cap) rfl
            exact ⟨_, .cons none cut, collect_goes inner (pauses.moved taken).ne' later⟩

end Parser

namespace Grammar

variable [Item ι] [Leaves κ σ ω] {rules : Rules ι κ} {p : Grammar ι κ} {s : σ}

/-- What repetitions of a grammar, of options of it and of repetitions of it read from a place
on. -/
structure Absorbs (rules : Rules ι κ) (p : Grammar ι κ) (s : σ) (context : Context ω) : Prop where
  options : ∀ limits : Limits, limits.requireProgress = true → ∃ values last,
    ((Grammar.many p limits).parse rules s context).value = .success (.list values) last ∧
      ((Grammar.many (.optional p) limits).parse rules s context).value =
        .success (.list (values.map .present)) last
  chunks : ∀ limits : Limits, limits.requireProgress = true → 0 < limits.maxRepetitions →
    ∃ values chunks last, Cut limits.maxRepetitions values chunks ∧
      ((Grammar.many p .standard).parse rules s context).value = .success (.list values) last ∧
      ((Grammar.many (.many p limits) .standard).parse rules s context).value =
        .success (.list (chunks.map .list)) last
  /-- A repetition that may have no item stalls at once. -/
  nothing : ∀ limits : Limits, limits.maxRepetitions = 0 →
    ((Grammar.many (.many p limits) .standard).parse rules s context).value =
      .success (.list []) s
  whole : ∃ values last,
    ((Grammar.many p .standard).parse rules s context).value = .success (.list values) last ∧
      (values = [] → last = s) ∧
      ((Grammar.many (.many p .standard) .standard).parse rules s context).value =
        .success (.list (if values = [] then [] else [.list values])) last

section

variable (rules : Rules ι κ) (p : Grammar ι κ) (limits outer : Limits) (s : σ)
  (context : Context ω)

theorem parse_many :
    ((Grammar.many p limits).parse rules s context).value =
      (((p.parser rules).value.many limits).parse s context).value.map .list := by
  rw [Grammar.parse_apply, Grammar.parser, Grammar.build]
  rfl

theorem parse_many_optional :
    ((Grammar.many (.optional p) limits).parse rules s context).value =
      ((((p.parser rules).value.optional.map .ofOption).many limits).parse s context).value.map
        .list := by
  rw [parse_many, Grammar.parser, Grammar.build]
  rfl

theorem parse_many_many :
    ((Grammar.many (.many p limits) outer).parse rules s context).value =
      (((((p.parser rules).value.many limits).map .list).many outer).parse s context).value.map
        .list := by
  rw [parse_many, Grammar.parser, Grammar.build]
  rfl

end

theorem parser_treads {results : σ → Outcome σ Value}
    (treads : Treads there settled (p.parse rules) results) :
    Treads there settled (p.parser rules).value.parse results where
  settles here := ⟨(treads.settles here).comes, (treads.settles here).keeps⟩
  stays := treads.stays
  forward := treads.forward

/-- Where grammars tread, repetitions absorb options and repetitions. -/
theorem absorbs {context : Context ω}
    (terrain : Terrain there settled fun s => (Cursor.atEnd s context.shared).1)
    (treads : ∀ grammar : Grammar ι κ, Treads there settled (grammar.parse rules)
      fun s => (grammar.parse rules s context).value)
    (start : settled context) (p : Grammar ι κ) (here : there s) :
    Absorbs rules p s context := by
  have reads := Parser.readsRound (parser_treads (treads p))
  obtain ⟨values, last, rounds, bounded⟩ := terrain.exists_rounds reads here
  have few : values.length ≤ Limits.standard.maxRepetitions := Nat.le_of_add_right_le bounded
  have plain : ((Grammar.many p .standard).parse rules s context).value =
      .success (.list values) last := by
    rw [parse_many]
    exact congrArg (Outcome.map _) ((reads.many rfl _ here rounds few).comes context start)
  have nested : ∀ limits : Limits, limits.requireProgress = true → 0 < limits.maxRepetitions →
      ∃ chunks, Cut limits.maxRepetitions values chunks ∧
        ((Grammar.many (.many p limits) .standard).parse rules s context).value =
          .success (.list (chunks.map .list)) last := by
    intro limits guard some
    obtain ⟨chunks, cut, collected⟩ :=
      reads.collect_chunks guard some Value.list rounds here few "ZERO OR MANY"
    refine ⟨chunks, cut, ?_⟩
    rw [parse_many_many]
    exact congrArg (Outcome.map _) ((Parser.many_settles collected).comes context start)
  constructor
  · intro limits guard
    obtain ⟨values, last, items, options⟩ :=
      Parser.many_map_optional (p.parser rules).value Value.ofOption guard s context
    refine ⟨values, last, ?_, ?_⟩
    · rw [parse_many, items]
      rfl
    · rw [parse_many_optional, options]
      rfl
  · intro limits guard some
    obtain ⟨chunks, cut, collected⟩ := nested limits guard some
    exact ⟨values, chunks, last, cut, plain, collected⟩
  · intro limits none
    rw [parse_many_many, Parser.many_map_many_nothing _ _ rfl none]
    rfl
  · obtain ⟨chunks, cut, collected⟩ := nested .standard rfl (by decide)
    refine ⟨values, last, plain, ?_, ?_⟩
    · rintro rfl
      cases rounds <;> rfl
    · rw [collected, cut.eq_of_length_le few]
      split <;> rfl

end Grammar

namespace Shape

variable {σ ω : Type} [SymbolCursor σ ω] {rules : Rules String TextLeaf} {shape : Shape} {s : σ}
  {context : Context ω}

/-- The grammar of a type. -/
def grammar (shape : Shape) : Grammar String TextLeaf := .leaf (.typed shape)

theorem parser_optional (rules : Rules String TextLeaf) (shape : Shape) :
    ((grammar (.optional shape)).parser rules : Logged (Parser σ ω Value)) =
      (Grammar.optional (grammar shape)).parser rules := by
  simp only [grammar, Grammar.parser, Grammar.build]
  rfl

theorem parser_sequence (rules : Rules String TextLeaf) (shape : Shape) :
    ((grammar (.sequence shape)).parser rules : Logged (Parser σ ω Value)) =
      (Grammar.many (grammar shape) .standard).parser rules := by
  simp only [grammar, Grammar.parser, Grammar.build]
  rfl

theorem parse_sequence (rules : Rules String TextLeaf) (shape : Shape) (s : σ) :
    (grammar (.sequence shape)).parse rules s =
      (Grammar.many (grammar shape) .standard).parse rules s := by
  rw [Grammar.parse, parser_sequence]
  rfl

/-- Sequences of options and of sequences of a type carry the items of a sequence of it. -/
structure Carried (shape : Shape) (rules : Rules String TextLeaf) (s : σ) (context : Context ω)
    (items : List Value) (last : σ) : Prop where
  plain : ((grammar (.sequence shape)).parse rules s context).value = .success (.list items) last
  options : ((grammar (.sequence (.optional shape))).parse rules s context).value =
    .success (.list (items.map .present)) last
  sequences : ((grammar (.sequence (.sequence shape))).parse rules s context).value =
    .success (.list (if items = [] then [] else [.list items])) last

theorem exists_carried (absorbs : Grammar.Absorbs rules (grammar shape) s context) :
    ∃ items last, shape.Carried rules s context items last := by
  obtain ⟨values, last, plain, _, sequences⟩ := absorbs.whole
  obtain ⟨values', last', plain', options⟩ := absorbs.options .standard rfl
  cases plain.symm.trans plain'
  refine ⟨values, last, ?_, ?_, ?_⟩
  · rw [parse_sequence, plain]
  · rw [parse_sequence, Grammar.parse_many, parser_optional, ← Grammar.parse_many, options]
  · rw [parse_sequence, Grammar.parse_many, parser_sequence, ← Grammar.parse_many, sequences]

end Shape

/-- Guarded repetitions of options have the values of the items, and guarded repetitions of
repetitions have them in chunks, from every place of every kind of input. -/
theorem repetitions_absorb :
    (∀ (input : String) (options : TextOptions) (count : Nat),
      input.utf8ByteSize ≤ Limits.unlimited →
        ∀ (rules : Rules String TextLeaf) (depth : Nat),
          (∀ p, Grammar.Absorbs rules p (TextCursor.after input options count) ⟨(), depth⟩) ∧
            ∀ shape : Shape, ∃ items last,
              shape.Carried rules (TextCursor.after input options count) ⟨(), depth⟩ items last) ∧
    (∀ (s : TokenCursor) (context : Context TokenBuffer),
      context.shared.contents.Reaches s.index →
        context.shared.contents[Limits.unlimited]? = none →
          ∀ rules : Rules String TextLeaf,
            (∀ p, Grammar.Absorbs rules p s context) ∧
              ∀ shape : Shape, ∃ items last, shape.Carried rules s context items last) ∧
    ∀ (ι : Type) [Item ι] (s : SliceCursor ι),
      s.index ≤ s.items.size → s.items.size ≤ Limits.unlimited →
        ∀ (rules : Rules ι Empty) (p : Grammar ι Empty) (depth : Nat),
          Grammar.Absorbs rules p s ⟨(), depth⟩ := by
  refine ⟨?_, ?_, ?_⟩
  · intro input options count short rules depth
    have absorbs := fun p => Grammar.absorbs (TextCursor.terrain short depth)
      (TextCursor.treads rules depth) ⟨trivial, rfl⟩ p
      (⟨count, rfl⟩ : TextCursor.Rests input options (.after input options count))
    exact ⟨absorbs, fun shape => Shape.exists_carried (absorbs _)⟩
  · intro s context within short rules
    have absorbs := fun p => Grammar.absorbs (TokenCursor.terrain short rfl)
      (TokenCursor.treads rules rfl) ⟨rfl, rfl⟩ p
      (⟨within, rfl⟩ : TokenCursor.Rests _ s.caseInsensitive s)
    exact ⟨absorbs, fun shape => Shape.exists_carried (absorbs _)⟩
  · intro ι _ s within short rules p depth
    exact Grammar.absorbs (SliceCursor.terrain short depth) (SliceCursor.treads rules depth)
      ⟨trivial, rfl⟩ p ⟨rfl, rfl, within⟩

/-- Five letters, read as options, in chunks of two, and in one piece. -/
theorem repetitions_absorb_letters :
    let s := TextCursor.after "aaaaab" .standard 0
    let last := TextCursor.after "aaaaab" .standard 5
    let letter : Grammar String TextLeaf := .exact "a"
    let parse (grammar : Grammar String TextLeaf) := (grammar.parse [] s ⟨(), 0⟩).value
    let a := Value.text "a"
    "aaaaab".utf8ByteSize ≤ Limits.unlimited ∧ Grammar.Absorbs [] letter s ⟨(), 0⟩ ∧
      parse (.many (.optional letter) (Limits.standard.withMaxRepetitions 2)) =
        .success (.list [.present a, .present a]) (TextCursor.after "aaaaab" .standard 2) ∧
      parse (.many (.many letter (Limits.standard.withMaxRepetitions 2)) .standard) =
        .success (.list [.list [a, a], .list [a, a], .list [a]]) last ∧
      parse (.many (.many letter .standard) .standard) =
        .success (.list [.list [a, a, a, a, a]]) last := by
  have short : "aaaaab".utf8ByteSize ≤ Limits.unlimited := by decide
  have absorbs := (repetitions_absorb.1 "aaaaab" .standard 0 short [] 0).1 (.exact "a")
  exact ⟨short, absorbs, by decide +kernel, by decide +kernel, by decide +kernel⟩

end Descent
