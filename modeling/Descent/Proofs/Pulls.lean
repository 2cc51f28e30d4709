import Descent.Proofs.Congruence.Symbols
import Descent.Proofs.Cursor.Buffer

/-!
# Tokens that were not pulled

What a parse has not pulled from its source has no influence on it.  A source that gives
the same tokens up to there, and whatever it likes after them, leads to the same outcome
and journal, and the same tokens are pulled from it.
-/

namespace Descent

variable {α β : Type}

namespace TokenBuffer

/-- What becomes of a buffer while cursors look at tokens. -/
structure Extends (before after : TokenBuffer) : Prop where
  contents : after.contents = before.contents
  grown : before.tokens.size ≤ after.tokens.size
  /-- A source that has ended does not come back. -/
  open_of_open : after.source.isSome = true → before.source.isSome = true

namespace Extends

theorem refl (buffer : TokenBuffer) : Extends buffer buffer := ⟨rfl, Nat.le_refl _, id⟩

theorem trans {first second third : TokenBuffer} (before : Extends first second)
    (after : Extends second third) : Extends first third :=
  ⟨after.contents.trans before.contents, Nat.le_trans before.grown after.grown,
    before.open_of_open ∘ after.open_of_open⟩

end Extends

/-- What a buffer holds comes first in its contents. -/
theorem take_contents (buffer : TokenBuffer) :
    buffer.contents.take buffer.tokens.size = buffer.tokens.toList := by
  have whole := Supply.take_append buffer.tokens.toList
    (buffer.source.elim Supply.nil TokenSource.given) 0
  rw [Nat.add_zero, Array.length_toList] at whole
  exact whole.trans (List.append_nil _)

theorem extends_pull (buffer : TokenBuffer) (index : Nat) : Extends buffer (buffer.pull index) := by
  refine ⟨contents_pull buffer index, ?_, ?_⟩
  · have longer : buffer.tokens.toList <+: (buffer.pull index).tokens.toList := by
      rw [tokens_pull, ← take_contents]
      exact buffer.contents.take_prefix (Nat.le_max_left _ _)
    exact longer.length_le
  · intro remains
    obtain ⟨tokens, source⟩ := buffer
    cases source with
    | none => exact remains
    | some source => rfl

/-- Two buffers that hold the same tokens, of which the second one has in store what the
first one has up to a count. -/
structure AgreesUpTo (count : Nat) (buffer other : TokenBuffer) : Prop where
  tokens : other.tokens = buffer.tokens
  same : ∀ index < count, other.contents[index]? = buffer.contents[index]?

namespace AgreesUpTo

variable {buffer other : TokenBuffer} {count fewer index : Nat}

theorem mono (agrees : AgreesUpTo count buffer other) (within : fewer ≤ count) :
    AgreesUpTo fewer buffer other :=
  ⟨agrees.tokens, fun index below => agrees.same index (Nat.lt_of_lt_of_le below within)⟩

theorem pull_eq (agrees : AgreesUpTo count buffer other)
    (held : buffer.tokens.size ≤ count) (below : index < count) :
    (other.pull index).tokens = (buffer.pull index).tokens := by
  have reach : max buffer.tokens.size (index + 1) ≤ count := Nat.max_le.mpr ⟨held, below⟩
  rw [← Array.toList_inj, tokens_pull, tokens_pull, agrees.tokens]
  exact Supply.take_congr (agrees.mono reach).same

end AgreesUpTo

end TokenBuffer

/-- Two steps that differ at most in what the sources would give further on. -/
structure Step.PullsAlike (first second : Step TokenBuffer α) : Prop where
  value : second.value = first.value
  journal : second.journal = first.journal
  depth : second.context.depth = first.context.depth
  tokens : second.context.shared.tokens = first.context.shared.tokens

/-- A run that comes to the same on all buffers that agree up to what it has pulled, unless
it has come to the end of the source. -/
structure Run.Frugal (run : Run TokenBuffer α) : Prop where
  extending : ∀ context : Context TokenBuffer, context.shared.Extends (run context).context.shared
  alike : ∀ {context : Context TokenBuffer} {other : TokenBuffer},
    (run context).context.shared.source.isSome = true →
      context.shared.AgreesUpTo (run context).context.shared.tokens.size other →
        (run context).PullsAlike (run ⟨other, context.depth⟩)

namespace Run

/-- A run that does not touch the buffer. -/
theorem frugal_of_depth (value : Nat → α) (depth : Nat → Nat) (journal : Nat → Journal) :
    Frugal fun context =>
      ⟨value context.depth, ⟨context.shared, depth context.depth⟩, journal context.depth⟩ :=
  ⟨fun _ => .refl _, fun _ agrees => ⟨rfl, rfl, rfl, agrees.tokens⟩⟩

/-- A question that is answered from the token at one index. -/
theorem frugal_ask {query : Query TokenBuffer α} {index : Nat} (answer : Option String → α)
    (looks : ∀ buffer, query buffer = (answer buffer.contents[index]?, buffer.pull index)) :
    (ask query).Frugal := by
  refine ⟨?_, ?_⟩
  · intro context
    rw [ask_apply, looks]
    exact context.shared.extends_pull index
  · intro context other remains agrees
    rw [ask_apply, looks] at remains agrees
    have below : index < (context.shared.pull index).tokens.size := by
      rcases context.shared.pull_reaches index with pulled | ended
      · exact pulled
      · rw [ended] at remains
        cases remains
    have held := (context.shared.extends_pull index).grown
    rw [ask_apply, ask_apply, looks, looks]
    exact ⟨congrArg answer (agrees.same _ below), rfl, rfl, agrees.pull_eq held below⟩

theorem frugal_takeIf (s : TokenCursor) (condition : String → Bool) :
    (ask (s.takeIf? condition)).Frugal :=
  frugal_ask (fun token => (token.filter condition).map (·, s.advance)) (s.takeIf?_eq condition)

/-- The second run goes on from where the buffers still agree. -/
theorem Frugal.bind {first : Run TokenBuffer α} {later : α → Run TokenBuffer β}
    (before : first.Frugal) (after : ∀ value, (later value).Frugal) :
    (first >>= later).Frugal := by
  refine ⟨?_, ?_⟩
  · intro context
    exact (before.extending context).trans ((after _).extending _)
  · intro context other remains agrees
    have onward := (after (first context).value).extending (first context).context
    have start := before.alike (onward.open_of_open remains) (agrees.mono onward.grown)
    have kept := (before.extending context).contents
    have otherKept := (before.extending ⟨other, context.depth⟩).contents
    have between : (first context).context.shared.AgreesUpTo
        ((first >>= later) context).context.shared.tokens.size
        (first ⟨other, context.depth⟩).context.shared :=
      ⟨start.tokens, by rw [otherKept, kept]; exact agrees.same⟩
    have finish := (after (first context).value).alike remains between
    have there : later (first ⟨other, context.depth⟩).value (first ⟨other, context.depth⟩).context =
        later (first context).value
          ⟨(first ⟨other, context.depth⟩).context.shared, (first context).context.depth⟩ := by
      rw [start.value, ← start.depth]
    rw [← there] at finish
    exact ⟨finish.value, congrArg₂ (· ++ ·) start.journal finish.journal, finish.depth,
      finish.tokens⟩

end Run

namespace Congruence

/-- A frugal run is related to itself. -/
def frugal : Congruence TokenCursor where
  Runs first second := first = second ∧ first.Frugal
  pure value := ⟨rfl, Run.frugal_of_depth (fun _ => value) id fun _ => []⟩
  bind := by
    rintro _ _ first _ later last ⟨rfl, before⟩ after
    obtain rfl : later = last := funext fun value => (after value).1
    exact ⟨rfl, before.bind fun value => (after value).2⟩
  atEnd s := ⟨rfl, Run.frugal_ask Option.isNone s.atEnd_eq⟩
  peek s := ⟨rfl, Run.frugal_ask id s.peek?_eq⟩
  take s item := ⟨rfl, Run.frugal_takeIf s (s.agrees · item)⟩
  write event _ := ⟨rfl, Run.frugal_of_depth (fun _ => ()) id fun _ => [event]⟩
  depth := ⟨rfl, Run.frugal_of_depth id id fun _ => []⟩
  enter label :=
    ⟨rfl, Run.frugal_of_depth (fun _ => ()) (· + 1) fun depth => [.entered label depth]⟩
  exit label := ⟨rfl, Run.frugal_of_depth (fun _ => ()) (· - 1) fun _ => [.exited label]⟩

theorem frugal_observing : frugal.Observing true :=
  fun event _ => And.intro rfl (Run.frugal_of_depth (fun _ => ()) id fun _ => [event])

theorem frugal_symbolic : frugal.Symbolic :=
  fun s accept => And.intro rfl (Run.frugal_takeIf s (TokenCursor.isSymbol accept))

end Congruence

theorem Grammar.parse_frugal (rules : Rules String TextLeaf) (grammar : Grammar String TextLeaf)
    (s : TokenCursor) : (grammar.parse rules s).Frugal :=
  And.right (Congruence.parse_self Congruence.frugal_observing
    Congruence.frugal_symbolic.leafwise rules grammar s)

/-- A parse that has not come to the end of its source comes to the same, and pulls the
same tokens, from every source that gives those tokens first. -/
theorem TokenCursor.parse_of_pulled (rules : Rules String TextLeaf)
    (grammar : Grammar String TextLeaf) (caseInsensitive : Bool) (depth : Nat)
    (source other : TokenSource) :
    let s : TokenCursor := ⟨0, caseInsensitive⟩
    let first := grammar.parse rules s ⟨.fresh source, depth⟩
    first.context.shared.source.isSome = true →
      (∀ index < first.context.shared.tokens.size, other.given[index]? = source.given[index]?) →
        first.PullsAlike (grammar.parse rules s ⟨.fresh other, depth⟩) := by
  intro s first remains same
  exact (grammar.parse_frugal rules s).alike remains ⟨rfl, same⟩

/-- A list of digits and lists, from a source that does not end and from one that ends with
the list. -/
theorem TokenCursor.parse_of_pulled_list :
    let rules : Rules String TextLeaf :=
      [("list", .between (.exact "[") (.exact "]")
        (.separated (.exact ",") (.firstOf [.leaf .digit, .deferred "INNER" "list" .standard])
          .standard))]
    let grammar : Grammar String TextLeaf := .traced (.rule "list")
    let list : List String := ["[", "1", ",", "[", "2", "]", "]"]
    let endless : TokenSource := ⟨fun number => some (list[number]?.getD "x"), 0⟩
    let ending : TokenSource := .ofList (list.map some)
    let parse (source : TokenSource) :=
      grammar.parse rules (⟨0, false⟩ : TokenCursor) ⟨.fresh source, 0⟩
    (parse endless).context.shared.source.isSome = true ∧
      (parse endless).context.shared.tokens.size = 7 ∧
      (∀ index < 7, ending.given[index]? = endless.given[index]?) ∧
      (parse endless).PullsAlike (parse ending) := by
  intro rules grammar list endless ending parse
  have remains : (parse endless).context.shared.source.isSome = true := by decide +kernel
  have pulled : (parse endless).context.shared.tokens.size = 7 := by decide +kernel
  have same : ∀ index < 7, ending.given[index]? = endless.given[index]? := by decide +kernel
  simp only [parse] at remains pulled ⊢
  refine ⟨remains, pulled, same,
    TokenCursor.parse_of_pulled rules grammar false 0 endless ending remains ?_⟩
  rw [pulled]
  exact same

end Descent
