import Descent.Proofs.Clones
import Descent.Proofs.Pulls

/-!
# Buffers over whole sessions

All cursors over one token input share its buffer.  Whatever a session does with them, the
buffer holds what the source has given so far, and these are its first tokens.  A look at an
index asks for tokens up to there and no further; a source that has answered with none is
not asked again.
-/

namespace Descent

namespace TokenSource

/-- A source has answered with some tokens, one after another, and is asked further from there. -/
inductive Gave (source : TokenSource) : List String → TokenSource → Prop where
  | nothing : Gave source [] source
  | next {tokens : List String} {rest : TokenSource} {token : String} :
      Gave source tokens rest → rest.next? = some token →
        Gave source (tokens ++ [token]) rest.later

theorem Gave.given_eq {source rest : TokenSource} {tokens : List String}
    (gave : source.Gave tokens rest) : source.given = tokens ++ rest.given := by
  induction gave with
  | nothing => rfl
  | next _ answer ih => rw [ih, given_of_some answer, Supply.append_assoc]

end TokenSource

namespace TokenBuffer

/-- A buffer is made of the answers of a source: one that is still held has given the tokens
in the buffer and no other answer, one that was dropped has given all it has before its
first answer of none. -/
structure FilledFrom (source : TokenSource) (buffer : TokenBuffer) : Prop where
  asked : ∀ rest, buffer.source = some rest → source.Gave buffer.tokens.toList rest
  ended : buffer.source = none → source.given = .ofList buffer.tokens.toList

variable {source : TokenSource} {buffer : TokenBuffer}

namespace FilledFrom

theorem fresh (source : TokenSource) : (TokenBuffer.fresh source).FilledFrom source := by
  constructor
  · rintro rest ⟨⟩
    exact .nothing
  · intro ended
    cases ended

theorem contents (filled : buffer.FilledFrom source) : buffer.contents = source.given := by
  cases held : buffer.source with
  | none => rw [contents_of_ended held, filled.ended held]
  | some rest =>
      rw [(filled.asked rest held).given_eq, TokenBuffer.contents, held, Option.elim_some]

theorem tokens (filled : buffer.FilledFrom source) :
    buffer.tokens.toList = source.given.take buffer.tokens.size := by
  rw [← filled.contents, take_contents]

theorem fill {tokens : Array String} {rest : TokenSource}
    (gave : source.Gave tokens.toList rest) (missing : Nat) :
    (TokenBuffer.fill missing tokens rest).FilledFrom source := by
  induction missing generalizing tokens rest with
  | zero =>
      constructor
      · rintro later ⟨⟩
        exact gave
      · intro ended
        cases ended
  | succ missing ih =>
      rw [TokenBuffer.fill]
      cases answer : rest.next? with
      | none =>
          constructor
          · intro later held
            cases held
          · intro _
            rw [gave.given_eq, TokenSource.given_of_none answer]
            exact Supply.append_nil _
      | some token =>
          apply ih
          rw [Array.toList_push]
          exact gave.next answer

theorem pull (filled : buffer.FilledFrom source) (index : Nat) :
    (buffer.pull index).FilledFrom source := by
  cases held : buffer.source with
  | none => rwa [pull_of_ended held]
  | some rest =>
      have pulled := fill (filled.asked rest held) (index + 1 - buffer.tokens.size)
      simpa [TokenBuffer.pull, held] using pulled

end FilledFrom

/-- A look at an index leaves the tokens up to there, or all there are, or what was held. -/
theorem size_pull (buffer : TokenBuffer) (index : Nat) :
    (buffer.pull index).tokens.size =
      max buffer.tokens.size (buffer.contents.take (index + 1)).length := by
  have pulled := congrArg List.length (buffer.tokens_pull index)
  have held : (buffer.contents.take buffer.tokens.size).length = buffer.tokens.size := by
    rw [take_contents, Array.length_toList]
  rw [Array.length_toList] at pulled
  rcases Nat.le_total buffer.tokens.size (index + 1) with further | within
  · have longer := (buffer.contents.take_prefix further).length_le
    rw [held] at longer
    rw [pulled, Nat.max_eq_right further, Nat.max_eq_right longer]
  · have shorter := (buffer.contents.length_take_le (index + 1)).trans within
    rw [pulled, Nat.max_eq_left within, held, Nat.max_eq_left shorter]

theorem isSome_source_fill (missing : Nat) (tokens : Array String) (rest : TokenSource) :
    (fill missing tokens rest).source.isSome ↔ rest.given.Reaches missing := by
  induction missing generalizing tokens rest with
  | zero => exact ⟨fun _ => Supply.reaches_zero _, fun _ => rfl⟩
  | succ missing ih =>
      rw [fill]
      cases answer : rest.next? with
      | none => simp [TokenSource.given_of_none answer, Supply.reaches_succ_iff]
      | some token => rw [ih, TokenSource.given_of_some answer, Supply.reaches_cons]

/-- A source that is held is dropped by a look beyond its tokens, and only by that. -/
theorem isSome_source_pull (buffer : TokenBuffer) (index : Nat) :
    (buffer.pull index).source.isSome ↔
      buffer.source.isSome ∧ buffer.contents[index]?.isSome := by
  cases held : buffer.source with
  | none => simp [pull, held]
  | some rest =>
      simp only [pull, held, isSome_source_fill, Option.isSome_some, true_and, contents,
        Option.elim_some]
      by_cases within : index < buffer.tokens.size
      · have nothing : index + 1 - buffer.tokens.size = 0 := by omega
        have inside : index < buffer.tokens.toList.length := by simpa using within
        rw [nothing, Supply.getElem?_append_left inside]
        simp [Supply.reaches_zero, within]
      · have further : index + 1 - buffer.tokens.size = index - buffer.tokens.size + 1 := by omega
        have beyond : buffer.tokens.toList.length ≤ index := by simpa using within
        rw [further, Supply.reaches_succ_iff, Supply.getElem?_append_right beyond,
          Array.length_toList]

example : (start [some "a", none, some "b"]).pull 4 = ⟨#["a"], none⟩ := rfl

namespace Extends

variable {before after : TokenBuffer}

theorem isPrefix (grown : before.Extends after) : before.tokens.toList <+: after.tokens.toList := by
  rw [← take_contents before, ← take_contents after, grown.contents]
  exact before.contents.take_prefix grown.grown

/-- Once the source has ended nothing becomes of a buffer any more. -/
theorem eq_of_ended (grown : before.Extends after) (ended : before.source = none) :
    after = before := by
  have endedAfter : after.source = none := by
    cases held : after.source with
    | none => rfl
    | some rest => simpa [ended] using grown.open_of_open (by rw [held]; rfl)
  have tokens : after.tokens = before.tokens := by
    have same := grown.contents
    rw [contents_of_ended endedAfter, contents_of_ended ended] at same
    exact Array.toList_inj.mp (Supply.ofList_inj same)
  calc
    after = ⟨after.tokens, after.source⟩ := rfl
    _ = ⟨before.tokens, before.source⟩ := by rw [tokens, endedAfter, ended]
    _ = before := rfl

end Extends

/-- A property of buffers that looks at an index keep is kept by everything. -/
def keeping (holds : TokenBuffer → Prop)
    (pull : ∀ buffer index, holds buffer → holds (buffer.pull index)) : Invariant TokenCursor where
  cursors _ := True
  shared := holds
  atEnd {s} _ buffer held := by
    rw [s.atEnd_eq]
    exact pull buffer s.index held
  peek {s} _ buffer held := by
    rw [s.peek?_eq]
    exact pull buffer s.index held
  take {s} _ item buffer held := by
    change holds (s.takeIf? _ buffer).2 ∧ _
    rw [s.takeIf?_eq]
    exact ⟨pull buffer s.index held, fun _ _ => trivial⟩

theorem keeping_observed (holds : TokenBuffer → Prop)
    (pull : ∀ buffer index, holds buffer → holds (buffer.pull index)) :
    (keeping holds pull).Observed TextLeaf := by
  have symbol : ∀ (s : TokenCursor) (accept : Char → Bool),
      Query.Keeps holds (fun _ => True) (SymbolCursor.takeSymbol? s accept) := by
    intro s accept buffer held
    change holds (s.takeIf? _ buffer).2 ∧ _
    rw [s.takeIf?_eq]
    exact ⟨pull buffer s.index held, fun _ _ => trivial⟩
  refine ⟨?_, ?_, fun _ _ => trivial, Invariant.leafwise fun _ accept => symbol _ accept⟩
  · intro s _ buffer held
    change holds (s.describe buffer).2
    rw [TokenCursor.describe, TokenCursor.current?, get?_eq]
    exact pull buffer s.index held
  · intro query judged s _ accept
    cases judged
    exact symbol s accept

end TokenBuffer

/-- The register whose cursor looks at its token, if that is all that a command does. -/
def Command.query? {σ ι κ ω : Type} : Command σ ι κ ω → Option Nat
  | .take register _ | .takeSymbol register _ | .next register | .atEnd register
  | .describe register => some register
  | _ => none

/-- Whether a command asks nothing of any input. -/
def Command.isQuiet {σ ι κ ω : Type} : Command σ ι κ ω → Bool
  | .begin _ | .copy _ | .foldCase _ | .position _ | .rest _ | .buffered _ | .options _
  | .same _ _ => true
  | .take _ _ | .takeSymbol _ _ | .parse _ _ | .next _ | .atEnd _ | .describe _ => false

namespace Session

section

variable {σ ι κ ω α : Type} [Inspectable σ ι ω] [Item ι] {session : Session σ ω} {number : Nat}
  {entry : Register σ} {state : ω}

theorem within_input {input : Nat} (run : Run ω α)
    (present : session.inputs[input]? = some state) :
    ∃ later, session.within input run = some (run ⟨state, session.depth⟩, later) ∧
      later.inputs[input]? = some (run ⟨state, session.depth⟩).context.shared := by
  have bound : input < session.inputs.size := (Array.getElem?_eq_some_iff.mp present).1
  refine ⟨_, by rw [within, present]; rfl, ?_⟩
  exact Array.getElem?_setIfInBounds_self_of_lt bound

theorem inquire_input {query : σ → Query ω α} {answer : α → Answer σ}
    (found : session.registers[number]? = some entry)
    (present : session.inputs[entry.input]? = some state) :
    (session.inquire number query answer).2.inputs[entry.input]? =
      some (query entry.cursor state).2 := by
  obtain ⟨later, ran, there⟩ := within_input (Run.ask (query entry.cursor)) present
  simp only [inquire, found, ran]
  exact there

theorem consume_input {query : σ → Query ω (Option (ι × σ))}
    (found : session.registers[number]? = some entry)
    (present : session.inputs[entry.input]? = some state) :
    (session.consume number query).2.inputs[entry.input]? = some (query entry.cursor state).2 := by
  obtain ⟨later, ran, there⟩ := within_input (Run.ask (query entry.cursor)) present
  simp only [consume, found, ran]
  cases (Run.ask (query entry.cursor) ⟨state, session.depth⟩).value with
  | none => exact there
  | some item => exact there

theorem quiet_input [Leaves κ σ ω] {rules : Rules ι κ} {command : Command σ ι κ ω} {input : Nat}
    (quiet : command.isQuiet = true) (present : session.inputs[input]? = some state) :
    (session.step rules command).2.inputs[input]? = some state := by
  have bound : input < session.inputs.size := (Array.getElem?_eq_some_iff.mp present).1
  cases command with
  | begin source =>
      simp only [step, store, Array.getElem?_push, Nat.ne_of_lt bound, if_false, present]
  | copy register =>
      cases found : session.registers[register]? with
      | none => simpa [step, found] using present
      | some entry => simpa [step, found, store] using present
  | foldCase register =>
      cases found : session.registers[register]? with
      | none => simpa [step, found] using present
      | some entry =>
          cases folded : Inspectable.foldingCase? entry.cursor with
          | none => simpa [step, found, folded] using present
          | some cursor => simpa [step, found, folded, store] using present
  | position | rest | options => exact present
  | buffered register =>
      cases found : session.registers[register]? with
      | none => simpa [step, inquire, found] using present
      | some entry =>
          cases there : session.inputs[entry.input]? with
          | none => simpa [step, inquire, found, within, there] using present
          | some other =>
              by_cases own : entry.input = input
              · subst own
                rw [step, inquire_input found present]
              · simp [step, inquire, found, within, there, Run.ask, own, present]
  | same first second =>
      simp only [step]
      split <;> exact present
  | take | takeSymbol | parse | next | atEnd | describe => cases quiet

end

variable {session : Session TokenCursor TokenBuffer} {source : TokenSource}
  {buffer : TokenBuffer}

theorem query_input (rules : Rules String TextLeaf)
    {command : Command TokenCursor String TextLeaf TokenBuffer} {number : Nat}
    {entry : Register TokenCursor} (query : command.query? = some number)
    (found : session.registers[number]? = some entry)
    (present : session.inputs[entry.input]? = some buffer) :
    (session.step rules command).2.inputs[entry.input]? =
      some (buffer.pull entry.cursor.index) := by
  cases command with
  | take register item =>
      cases query
      rw [step, consume_input found present]
      exact congrArg (some ·.2) (entry.cursor.takeIf?_eq _ buffer)
  | takeSymbol register accept =>
      cases query
      change (session.consume number (SymbolCursor.takeSymbol? · accept)).2.inputs[entry.input]? = _
      rw [consume_input found present]
      exact congrArg (some ·.2) (entry.cursor.takeIf?_eq _ buffer)
  | next register =>
      cases query
      rw [step, inquire_input found present, entry.cursor.peek?_eq]
  | atEnd register =>
      cases query
      rw [step, inquire_input found present, entry.cursor.atEnd_eq]
  | describe register =>
      cases query
      rw [step, inquire_input found present]
      simp only [Inspectable.describe, TokenCursor.describe, TokenCursor.current?,
        TokenBuffer.get?_eq]
  | begin | copy | foldCase | parse | position | rest | buffered | options | same => cases query

/-- What can be said at any time of the buffer of a session's first input. -/
structure Buffers (session : Session TokenCursor TokenBuffer) (source : TokenSource)
    (buffer : TokenBuffer) : Prop where
  present : session.inputs[0]? = some buffer
  filled : buffer.FilledFrom source
  tokens : buffer.tokens.toList = source.given.take buffer.tokens.size
  /-- No token after the first answer of none is ever seen. -/
  answers : ∀ index, (TokenBuffer.get? index buffer).1 = source.given[index]?
  /-- Whatever is done later, the buffer keeps what it holds, and if the source has ended it
  stays the same. -/
  grows : ∀ commands : List
      (Rules String TextLeaf × Command TokenCursor String TextLeaf TokenBuffer),
    ∃ later, (session.after commands).inputs[0]? = some later ∧
      buffer.tokens.size ≤ later.tokens.size ∧
      buffer.tokens.toList <+: later.tokens.toList ∧ (buffer.source = none → later = buffer)
  /-- A single query pulls up to the index of its cursor, as far as there are tokens, and drops
  the source if there is none at that index. -/
  query : ∀ (rules : Rules String TextLeaf)
      (command : Command TokenCursor String TextLeaf TokenBuffer) (number : Nat)
      (entry : Register TokenCursor), command.query? = some number →
    session.registers[number]? = some entry → entry.input = 0 →
      ∃ later, (session.step rules command).2.inputs[0]? = some later ∧
        later.tokens.size = max buffer.tokens.size
          (source.given.take (entry.cursor.index + 1)).length ∧
        (later.source.isSome ↔
          buffer.source.isSome ∧ source.given[entry.cursor.index]?.isSome)
  quiet : ∀ (rules : Rules String TextLeaf)
      (command : Command TokenCursor String TextLeaf TokenBuffer), command.isQuiet = true →
    (session.step rules command).2.inputs[0]? = some buffer

theorem extends_after (present : session.inputs[0]? = some buffer)
    (commands : List (Rules String TextLeaf × Command TokenCursor String TextLeaf TokenBuffer)) :
    ∃ later, (session.after commands).inputs[0]? = some later ∧ buffer.Extends later := by
  have pull : ∀ later index, buffer.Extends later → buffer.Extends (later.pull index) :=
    fun later index grown => grown.trans (later.extends_pull index)
  have now : session.Holds 0 (TokenBuffer.keeping buffer.Extends pull) :=
    ⟨⟨buffer, present, .refl buffer⟩, fun _ _ _ => trivial⟩
  exact (now.after (TokenBuffer.keeping_observed buffer.Extends pull) commands).shared

end Session

/-- At any time in a session the buffer of a token input holds the first tokens of its
source, and further commands do to it what they should. -/
theorem TokenBuffer.session_buffers (source : TokenSource) (caseInsensitive : Bool)
    (commands : List (Rules String TextLeaf × Command TokenCursor String TextLeaf TokenBuffer)) :
    ∃ buffer, (Session.opened ⟨⟨0, caseInsensitive⟩, .fresh source⟩ commands).Buffers source
      buffer := by
  have observed := keeping_observed (FilledFrom source) fun _ index filled => filled.pull index
  let first : Source TokenCursor TokenBuffer := ⟨⟨0, caseInsensitive⟩, .fresh source⟩
  have started : first.shared.FilledFrom source := .fresh source
  have holds := Session.holds_opened observed trivial started commands
  obtain ⟨buffer, present, filled⟩ := holds.shared
  refine ⟨buffer, present, filled, filled.tokens, ?_, ?_, ?_, ?_⟩
  · intro index
    rw [get?_eq, filled.contents]
  · intro later
    obtain ⟨after, there, grown⟩ := Session.extends_after present later
    exact ⟨after, there, grown.grown, grown.isPrefix, grown.eq_of_ended⟩
  · intro rules command number entry query found own
    have pulled := Session.query_input rules query found (by rw [own]; exact present)
    rw [own] at pulled
    refine ⟨_, pulled, ?_, ?_⟩
    · rw [size_pull, filled.contents]
    · rw [isSome_source_pull, filled.contents]
  · intro rules command quiet
    exact Session.quiet_input quiet present

end Descent
