import Descent.Proofs.Absorption
import Descent.Proofs.NestedChoices
import Mathlib

/-!
# Common first parts of alternatives

A choice of sequences that start alike is one sequence that ends in a choice.  The choice of
sequences runs the first part again for each alternative, always on the cursor that it was
given; whatever was pulled in between, it comes to the same each time.  What tells the two
apart is where they ask for the end of the input, before the first part or after it.
-/

namespace Descent

variable {σ ι κ ω α β γ δ : Type}

namespace Outcome

theorem success?_eq_some_iff {outcome : Outcome σ α} {value : α} {rest : σ} :
    outcome.success? = some (value, rest) ↔ outcome = .success value rest := by
  cases outcome <;> simp [success?]

theorem success?_map (f : α → β) (outcome : Outcome σ α) :
    (outcome.map f).success? = outcome.success?.map (Prod.map f id) := by
  cases outcome <;> rfl

end Outcome

/-- A run settles on the given success, or on some failure if none is given. -/
def Run.SettlesOn (run : Run ω (Outcome σ α)) (settled : Context ω → Prop)
    (found : Option (α × σ)) : Prop :=
  ∃ outcome, run.Settles settled outcome ∧ outcome.success? = found

namespace Parser

variable {settled : Context ω → Prop} {s : σ}

theorem runBoth_settlesOn (label : String) (combine : α → β → γ) {p : Parser σ ω α}
    {q : Parser σ ω β} {first : Outcome σ α} {second : σ → Outcome σ β}
    (starts : (p.parse s).Settles settled first)
    (onward : ∀ rest, (q.parse rest).Settles settled (second rest)) :
    (runBoth label combine p q s).SettlesOn settled
      (first.success?.bind fun (value, rest) =>
        (second rest).success?.map fun (next, last) => (combine value next, last)) := by
  cases first with
  | failure failed => exact ⟨_, runBoth_fails_first starts, rfl⟩
  | success value rest =>
      have follows := onward rest
      cases came : second rest with
      | failure failed =>
          rw [came] at follows
          refine ⟨_, runBoth_fails_second starts follows, ?_⟩
          simp [Outcome.success?, came]
      | success next last =>
          rw [came] at follows
          refine ⟨_, runBoth_settles starts follows, ?_⟩
          simp [Outcome.success?, came]

/-- A search settles on the first success among what its parsers settle on. -/
theorem firstSuccess_settlesOn {p : δ → Parser σ ω α} {results : δ → Outcome σ α} {ds : List δ}
    (settles : ∀ d ∈ ds, ((p d).parse s).Settles settled (results d)) :
    (firstSuccess (ds.map p) s).Settles settled (ds.findSome? fun d => (results d).success?) := by
  induction ds with
  | nil => exact firstSuccess_misses
  | cons d later ih =>
      obtain ⟨first, others⟩ := List.forall_mem_cons.mp settles
      rw [List.map_cons, List.findSome?_cons]
      cases came : results d with
      | success value rest =>
          rw [came] at first
          exact firstSuccess_settles first
      | failure failed =>
          rw [came] at first
          exact firstSuccess_skips first (ih others)

theorem firstOf_settlesOn [Cursor σ ι ω] {p : δ → Parser σ ω α} {results : δ → Outcome σ α}
    {ds : List δ} {ended : Bool} (asks : (Run.ask (Cursor.atEnd s)).Settles settled ended)
    (settles : ∀ d ∈ ds, ((p d).parse s).Settles settled (results d)) :
    ((firstOf (ds.map p)).parse s).SettlesOn settled
      (if ended then none else ds.findSome? fun d => (results d).success?) := by
  cases ended with
  | true => exact ⟨_, guarded_settles_end asks, rfl⟩
  | false =>
      have found := firstSuccess_settlesOn settles
      cases first : ds.findSome? fun d => (results d).success? with
      | none =>
          rw [first] at found
          exact ⟨_, guarded_settles asks (found.bind (.pure _)), rfl⟩
      | some taken =>
          rw [first] at found
          exact ⟨_, guarded_settles asks (found.bind (.pure _)), rfl⟩

end Parser

namespace Grammar

variable [Cursor σ ι ω] [Item ι] [Leaves κ σ ω] {rules : Rules ι κ} {settled : Context ω → Prop}
  {context : Context ω} {s : σ}

/-- What a grammar succeeds with. -/
def success? (rules : Rules ι κ) (context : Context ω) (grammar : Grammar ι κ) (s : σ) :
    Option (Value × σ) :=
  (grammar.parse rules s context).value.success?

/-- Run again, in contexts that earlier runs may have left, a grammar comes to the same; and
where nothing was left, nothing is left after it. -/
structure Repeats (σ : Type) {ι κ ω : Type} [Cursor σ ι ω] [Item ι] [Leaves κ σ ω]
    (rules : Rules ι κ) (settled : Context ω → Prop) (context : Context ω) : Prop where
  starts : settled context
  settles : ∀ (grammar : Grammar ι κ) (s : σ),
    (grammar.parse rules s).Settles settled (grammar.parse rules s context).value
  asks : ∀ s : σ, (Run.ask (Cursor.atEnd s)).Settles settled (Cursor.atEnd s context.shared).1
  ended : ∀ (grammar : Grammar ι κ) (s : σ), (Cursor.atEnd s context.shared).1 = true →
    (Cursor.atEnd (grammar.parse rules s context).value.remaining context.shared).1 = true

omit [Item ι] in
theorem levels_le_firstOf (rules : Rules ι κ) {bs : List (Grammar ι κ)} {b : Grammar ι κ}
    (member : b ∈ bs) : levels rules b ≤ levels rules (.firstOf bs) := by
  obtain ⟨before, after, rfl⟩ := List.append_of_mem member
  simp only [levels, depthLimit, depthLimitOfAll_append, depthLimitOfAll]
  omega

namespace Repeats

theorem built (repeats : Repeats σ rules settled context)
    (counted : (Correspondence.counted σ).Leafwise κ) {grammar : Grammar ι κ} {levels : Nat}
    (enough : Grammar.levels rules grammar ≤ levels) (s : σ) :
    ((grammar.build (rules.scope levels) none).value.parse s).Settles settled
      (grammar.parse rules s context).value :=
  build_settles counted enough (repeats.settles grammar s)

theorem success?_of_built (repeats : Repeats σ rules settled context) {grammar : Grammar ι κ}
    {found : Option (Value × σ)}
    (settles : ((grammar.parser rules).value.parse s).SettlesOn settled found) :
    success? rules context grammar s = found := by
  obtain ⟨outcome, settles, rfl⟩ := settles
  exact congrArg Outcome.success? (settles.comes context repeats.starts)

theorem success?_both (repeats : Repeats σ rules settled context)
    (counted : (Correspondence.counted σ).Leafwise κ) (a b : Grammar ι κ) (s : σ) :
    success? rules context (.both a b) s =
      (success? rules context a s).bind fun (first, rest) =>
        (success? rules context b rest).map fun (second, last) => (.pair first second, last) := by
  have enough : levels rules a ≤ levels rules (.both a b) ∧
      levels rules b ≤ levels rules (.both a b) := by
    simp only [levels, depthLimit]
    omega
  obtain ⟨outcome, runs, found⟩ := Parser.runBoth_settlesOn _ Prod.mk
    (repeats.built counted enough.1 s) fun rest => repeats.built counted enough.2 rest
  apply repeats.success?_of_built
  rw [parser, build]
  refine ⟨_, Parser.map_settles _ runs, ?_⟩
  rw [Outcome.success?_map, found, Option.map_bind]
  simp only [success?, Function.comp_def, Option.map_map, Prod.map, id]

theorem success?_firstOf (repeats : Repeats σ rules settled context)
    (counted : (Correspondence.counted σ).Leafwise κ) (bs : List (Grammar ι κ)) (s : σ) :
    success? rules context (.firstOf bs) s =
      if (Cursor.atEnd s context.shared).1 then none
      else bs.findSome? (success? rules context · s) := by
  apply repeats.success?_of_built
  rw [parser, build_firstOf, buildAll_value]
  apply Parser.firstOf_settlesOn (repeats.asks s)
  intro b member
  exact repeats.built counted (levels_le_firstOf rules member) s

/-- Where something is left after the common first part, the alternatives can be told apart
after it as well as before it. -/
theorem success?_firstOf_both (repeats : Repeats σ rules settled context)
    (counted : (Correspondence.counted σ).Leafwise κ) {a : Grammar ι κ} {s : σ}
    (unread : ∀ value rest, success? rules context a s = some (value, rest) →
      (Cursor.atEnd rest context.shared).1 = false) (bs : List (Grammar ι κ)) :
    success? rules context (.firstOf (bs.map (.both a))) s =
      success? rules context (.both a (.firstOf bs)) s := by
  rw [repeats.success?_firstOf counted, repeats.success?_both counted, List.findSome?_map]
  simp only [Function.comp_def, repeats.success?_both counted]
  cases first : success? rules context a s with
  | none => simp
  | some taken =>
      obtain ⟨value, rest⟩ := taken
      have left := unread value rest first
      have started : (Cursor.atEnd s context.shared).1 = false := by
        by_contra ended
        have stays := repeats.ended a s (by simpa using ended)
        rw [Outcome.success?_eq_some_iff.mp first] at stays
        exact absurd (stays.symm.trans left) (by decide)
      simp only [started, Bool.false_eq_true, ↓reduceIte, Option.bind_some,
        repeats.success?_firstOf counted, left, List.map_findSome?]
      rfl

end Repeats

/-- After a success of a grammar something is left. -/
def LeavesUnread (rules : Rules ι κ) (a : Grammar ι κ) (s : σ) (context : Context ω) : Prop :=
  ∀ value rest, (a.parse rules s context).value = .success value rest →
    (Cursor.atEnd rest (a.parse rules s context).context.shared).1 = false

/-- A sequence that ends in a choice, and the choice of the sequences that end in its
alternatives, succeed alike. -/
structure FactorsLeft (rules : Rules ι κ) (a : Grammar ι κ) (bs : List (Grammar ι κ)) (s : σ)
    (context other : Context ω) : Prop where
  same : ∀ value last,
    ((Grammar.both a (.firstOf bs)).parse rules s context).value = .success value last ↔
      ((Grammar.firstOf (bs.map (.both a))).parse rules s other).value = .success value last
  /-- They succeed with the first part and the first of the others that succeeds after it. -/
  found : success? rules context (.both a (.firstOf bs)) s =
    (success? rules context a s).bind fun (first, rest) =>
      (bs.findSome? (success? rules context · rest)).map fun (second, last) =>
        (.pair first second, last)

theorem Repeats.factorsLeft (repeats : Repeats σ rules settled context)
    (counted : (Correspondence.counted σ).Leafwise κ) {a : Grammar ι κ} {s : σ}
    (leaves : a.LeavesUnread rules s context) (bs : List (Grammar ι κ)) {other : Context ω}
    (within : settled other) : FactorsLeft rules a bs s context other := by
  have unread : ∀ value rest, success? rules context a s = some (value, rest) →
      (Cursor.atEnd rest context.shared).1 = false := by
    intro value rest success
    have kept := (repeats.settles a s).keeps context repeats.starts
    have asked := (repeats.asks rest).comes _ kept
    exact asked.symm.trans (leaves value rest (Outcome.success?_eq_some_iff.mp success))
  have factored := repeats.success?_firstOf_both counted unread bs
  constructor
  · intro value last
    rw [(repeats.settles _ s).comes other within, ← Outcome.success?_eq_some_iff,
      ← Outcome.success?_eq_some_iff]
    exact Eq.congr_left factored.symm
  · rw [repeats.success?_both counted]
    cases first : success? rules context a s with
    | none => rfl
    | some taken =>
        obtain ⟨value, rest⟩ := taken
        simp only [Option.bind_some, repeats.success?_firstOf counted, unread value rest first,
          Bool.false_eq_true, ↓reduceIte]

/-- What invariants say of the end of the input, and of contexts, makes grammars repeat. -/
theorem repeats_of_invariants (context : Context ω) {shared : ω → Prop}
    (start : shared context.shared)
    (stopping : Prop → Invariant σ)
    (shares : ∀ stopped state, (stopping stopped).shared state ↔ shared state)
    (stops : ∀ {stopped s}, (stopping stopped).cursors s ↔
      (stopped → (Cursor.atEnd s context.shared).1 = true))
    (leaves : ∀ stopped,
      ((stopping stopped).diagonal .unrestricted fun _ => trivial).Leafwise κ)
    (asks : ∀ (s : σ) state, shared state →
      (Cursor.atEnd s state).1 = (Cursor.atEnd s context.shared).1)
    (same : ∀ (grammar : Grammar ι κ) (s : σ) (other : Context ω),
      other.Within shared context.depth →
        (grammar.parse rules s other).value = (grammar.parse rules s context).value) :
    Repeats σ rules (Context.Within shared context.depth) context where
  starts := ⟨start, rfl⟩
  settles grammar s := by
    refine ⟨fun other within => same grammar s other within, ?_⟩
    intro other ⟨sharing, depth⟩
    obtain ⟨_, kept, depth'⟩ := Invariant.parse (leaves False) rules grammar (s := s)
      (stops.mpr False.elim) other ((shares False _).mpr sharing)
    exact ⟨(shares False _).mp kept, depth'.trans depth⟩
  asks s := by
    refine ⟨fun other within => asks s other.shared within.1, ?_⟩
    intro other ⟨sharing, depth⟩
    exact ⟨(shares False _).mp ((stopping False).atEnd (stops.mpr False.elim) _
      ((shares False _).mpr sharing)), depth⟩
  ended grammar s ended := by
    obtain ⟨rests, _⟩ := Invariant.parse (leaves True) rules grammar (s := s)
      (stops.mpr fun _ => ended) context ((shares True _).mpr start)
    exact stops.mp rests trivial

end Grammar

/-- Nothing can be taken off a text that has ended, if it has. -/
def TextCursor.stopping (stopped : Prop) : Invariant TextCursor where
  cursors r := stopped → r.unread = []
  shared _ := True
  atEnd _ _ _ := trivial
  peek _ _ _ := trivial
  take {s} there item _ _ := by
    refine ⟨trivial, ?_⟩
    intro taken success ended
    rw [of_take? success]
    simp [there ended]

theorem TextCursor.grammars_repeat (rules : Rules String TextLeaf) (depth : Nat) :
    Grammar.Repeats TextCursor rules (Context.Within (fun _ : Unit => True) depth)
      ⟨(), depth⟩ := by
  apply Grammar.repeats_of_invariants ⟨(), depth⟩ trivial stopping
  · exact fun _ _ => Iff.rfl
  · intro stopped s
    exact imp_congr_right fun _ => TextCursor.atEnd_iff.symm
  · intro stopped
    apply Invariant.leafwise
    intro s there accept _ _
    refine ⟨trivial, ?_⟩
    intro taken success ended
    rw [of_takeSymbol? success]
    simp [there ended]
  · intros
    rfl
  · rintro grammar s other ⟨_, rfl⟩
    rfl

theorem TokenCursor.takeIf?_stops {tokens : Supply String} {stopped : Prop} {s : TokenCursor}
    (there : stopped → tokens[s.index]? = none) (condition : String → Bool) :
    Query.Keeps (fun buffer : TokenBuffer => buffer.contents = tokens)
      (fun r : TokenCursor => stopped → tokens[r.index]? = none) (s.takeIf? condition) := by
  intro buffer holds
  refine ⟨(s.contents_takeIf? condition buffer).trans holds, ?_⟩
  intro taken success ended
  obtain ⟨_, present⟩ := of_takeIf? success
  rw [holds, there ended] at present
  cases present

/-- Nothing is taken after the last token. -/
def TokenCursor.stopping (tokens : Supply String) (stopped : Prop) : Invariant TokenCursor where
  cursors r := stopped → tokens[r.index]? = none
  shared buffer := buffer.contents = tokens
  atEnd {s} _ buffer holds := (s.contents_atEnd buffer).trans holds
  peek {s} _ buffer holds := (s.contents_peek? buffer).trans holds
  take there _ := takeIf?_stops there _

theorem TokenCursor.grammars_repeat (rules : Rules String TextLeaf) {tokens : Supply String}
    {context : Context TokenBuffer} (holds : context.shared.contents = tokens) :
    Grammar.Repeats TokenCursor rules
      (Context.Within (fun buffer : TokenBuffer => buffer.contents = tokens) context.depth)
      context := by
  apply Grammar.repeats_of_invariants context holds (stopping tokens)
  · exact fun _ _ => Iff.rfl
  · intro stopped s
    rw [atEnd_eq, Option.isNone_iff_eq_none, holds]
    exact Iff.rfl
  · exact fun _ => Invariant.leafwise fun there _ => takeIf?_stops there _
  · intro s buffer same
    rw [atEnd_eq, atEnd_eq, same, holds]
  · intro grammar s other ⟨contents, depth⟩
    exact (parse_of_contents rules grammar s depth (contents.trans holds.symm)).1

/-- Nothing is taken after the last item. -/
def SliceCursor.stopping (stopped : Prop) : Invariant (SliceCursor ι) where
  cursors r := stopped → r.items.size ≤ r.index
  shared _ := True
  atEnd _ _ _ := trivial
  peek _ _ _ := trivial
  take {s} there item _ _ := by
    refine ⟨trivial, ?_⟩
    intro taken success ended
    obtain ⟨_, present⟩ := of_take? success
    exact absurd present (Nat.not_lt_of_le (there ended))

theorem SliceCursor.grammars_repeat [Item ι] (rules : Rules ι Empty) (depth : Nat) :
    Grammar.Repeats (SliceCursor ι) rules (Context.Within (fun _ : Unit => True) depth)
      ⟨(), depth⟩ := by
  apply Grammar.repeats_of_invariants ⟨(), depth⟩ trivial stopping
  · exact fun _ _ => Iff.rfl
  · intro stopped s
    exact imp_congr_right fun _ => decide_eq_true_iff.symm
  · exact fun _ => Correspondence.leafwise_empty
  · intros
    rfl
  · rintro grammar s other ⟨_, rfl⟩
    rfl

/-- Where something is left after a common first part, a choice of sequences that start with it
and the sequence of it and a choice succeed alike, with the same value and the same rest, on
every kind of input.  Over tokens neither depends on what has been pulled. -/
theorem choices_factor_left :
    (∀ (rules : Rules String TextLeaf) (a : Grammar String TextLeaf)
        (bs : List (Grammar String TextLeaf)) (s : TextCursor) (depth : Nat),
      a.LeavesUnread rules s ⟨(), depth⟩ →
        Grammar.FactorsLeft rules a bs s ⟨(), depth⟩ ⟨(), depth⟩) ∧
      (∀ (rules : Rules String TextLeaf) (a : Grammar String TextLeaf)
          (bs : List (Grammar String TextLeaf)) (s : TokenCursor)
          (context other : Context TokenBuffer),
        other.shared.contents = context.shared.contents → other.depth = context.depth →
          a.LeavesUnread rules s context → Grammar.FactorsLeft rules a bs s context other) ∧
      ∀ (ι : Type) [Item ι] (rules : Rules ι Empty) (a : Grammar ι Empty)
          (bs : List (Grammar ι Empty)) (s : SliceCursor ι) (depth : Nat),
        a.LeavesUnread rules s ⟨(), depth⟩ →
          Grammar.FactorsLeft rules a bs s ⟨(), depth⟩ ⟨(), depth⟩ := by
  refine ⟨?_, ?_, ?_⟩
  · intro rules a bs s depth leaves
    exact (TextCursor.grammars_repeat rules depth).factorsLeft Correspondence.counted_leafwise
      leaves bs ⟨trivial, rfl⟩
  · intro rules a bs s context other contents depth leaves
    exact (TokenCursor.grammars_repeat rules rfl).factorsLeft Correspondence.counted_leafwise
      leaves bs ⟨contents, depth⟩
  · intro ι _ rules a bs s depth leaves
    exact (SliceCursor.grammars_repeat rules depth).factorsLeft Correspondence.leafwise_empty
      leaves bs ⟨trivial, rfl⟩

/-- A call with a name that is a deferred rule; one of the buffers holds its tokens already, the
other one has yet to pull them. -/
theorem choices_factor_left_call :
    let rules : Rules String TextLeaf := [("name", .exact "f")]
    let call : Grammar String TextLeaf :=
      .keepFirst (.deferred "NAME" "name" .standard) (.exact "(")
    let arguments : List (Grammar String TextLeaf) := [.exact ")", .leaf .digit, .exact "x"]
    let context : Context TokenBuffer := ⟨.start [some "f", some "(", some "x"], 0⟩
    let other : Context TokenBuffer := ⟨⟨#["f", "(", "x"], none⟩, 0⟩
    other.shared.contents = context.shared.contents ∧ other.depth = context.depth ∧
      call.LeavesUnread rules TokenCursor.start context ∧
      Grammar.FactorsLeft rules call arguments TokenCursor.start context other ∧
      ((Grammar.firstOf (arguments.map (.both call))).parse rules TokenCursor.start other).value =
        .success (.pair (.text "f") (.text "x")) ⟨3, false⟩ := by
  intro rules call arguments context other
  have called : (call.parse rules TokenCursor.start context).value =
      .success (.text "f") ⟨2, false⟩ := by cbv
  have leaves : call.LeavesUnread rules TokenCursor.start context := by
    intro value rest success
    cases called.symm.trans success
    cbv
  have same : other.shared.contents = context.shared.contents := by
    rw [TokenBuffer.contents_of_ended rfl, TokenBuffer.contents_start]
    rfl
  have factors :=
    choices_factor_left.2.1 rules call arguments .start context other same rfl leaves
  refine ⟨same, rfl, leaves, factors, (factors.same _ _).mp ?_⟩
  cbv

end Descent
