import Descent.Cursor.Token
import Descent.Proofs.Supply

/-!
# Contents of token buffers

The contents of a buffer are the tokens it holds followed by those its source would
still give: a source that has answered with no token is never asked again, so what
comes after that answer does not count.  Looking at an index moves tokens from the
source into the buffer and leaves the contents as they are; hence every query is
answered from the contents alone.
-/

namespace Descent

namespace TokenSource

/-- The token that a source gives at a number of questions from now, if it gives one at each. -/
def token? (source : TokenSource) : Nat → Option String
  | 0 => source.next?
  | number + 1 => source.next?.bind fun _ => source.later.token? number

theorem token?_ends (source : TokenSource) (number : Nat) (ended : source.token? number = none) :
    source.token? (number + 1) = none := by
  induction number generalizing source with
  | zero =>
      change source.next? = none at ended
      rw [token?, ended]
      rfl
  | succ number ih =>
      rw [token?, Option.bind_eq_none_iff] at ended ⊢
      exact fun token given => ih source.later (ended token given)

/-- The tokens that a source gives before its first answer of none. -/
def given (source : TokenSource) : Supply String := ⟨source.token?, source.token?_ends⟩

variable {source : TokenSource} {token : String}

theorem given_of_none (ended : source.next? = none) : source.given = .nil :=
  Supply.eq_nil_iff.mpr ended

theorem given_of_some (answered : source.next? = some token) :
    source.given = [token] ++ source.later.given := by
  have rest : source.given.drop 1 = source.later.given := by
    ext1 number
    change source.token? (1 + number) = source.later.token? number
    rw [Nat.add_comm, token?, answered]
    rfl
  rw [← rest]
  exact Supply.eq_cons answered

end TokenSource

namespace TokenBuffer

/-- The tokens in a list of answers before the first answer of none. -/
def answered : List (Option String) → List String
  | some token :: later => token :: answered later
  | none :: _ | [] => []

/-- The tokens of a buffer, pulled or not. -/
def contents (buffer : TokenBuffer) : Supply String :=
  buffer.tokens.toList ++ buffer.source.elim Supply.nil TokenSource.given

theorem contents_fresh (source : TokenSource) : (fresh source).contents = source.given :=
  Supply.nil_append _

theorem contents_of_ended {buffer : TokenBuffer} (ended : buffer.source = none) :
    buffer.contents = .ofList buffer.tokens.toList := by
  rw [contents, ended]
  exact Supply.append_nil _

theorem given_of_answers {source : TokenSource} {answers : List (Option String)}
    (same : ∀ number, source.answer (source.asked + number) = answers[number]?.join) :
    source.given = .ofList (answered answers) := by
  induction answers generalizing source with
  | nil => exact TokenSource.given_of_none (same 0)
  | cons answer later ih =>
      have first : source.next? = answer := same 0
      cases answer with
      | none => exact TokenSource.given_of_none first
      | some token =>
          have rest : source.later.given = .ofList (answered later) := by
            apply ih
            intro number
            have onward := same (number + 1)
            rwa [← Nat.add_assoc, Nat.add_right_comm] at onward
          rw [TokenSource.given_of_some first, rest, answered]
          exact (Supply.ofList_append [token] (answered later)).symm

theorem given_ofList (answers : List (Option String)) :
    (TokenSource.ofList answers).given = .ofList (answered answers) := by
  apply given_of_answers
  intro number
  change answers.toArray[0 + number]?.join = answers[number]?.join
  rw [Nat.zero_add, List.getElem?_toArray]

theorem contents_start (answers : List (Option String)) :
    (start answers).contents = .ofList (answered answers) :=
  (contents_fresh _).trans (given_ofList answers)

theorem answered_map_some (tokens : List String) : answered (tokens.map some) = tokens := by
  induction tokens with
  | nil => rfl
  | cons token rest ih => simp [answered, ih]

theorem contents_fill (missing : Nat) (tokens : Array String) (source : TokenSource) :
    (fill missing tokens source).contents = tokens.toList ++ source.given := by
  induction missing generalizing tokens source with
  | zero => rfl
  | succ missing ih =>
      rw [fill]
      cases answer : source.next? with
      | none =>
          rw [TokenSource.given_of_none answer]
          rfl
      | some token =>
          simp only [ih, TokenSource.given_of_some answer, Array.toList_push, Supply.append_assoc]

/-- After a pull the buffer reaches beyond what was asked for, or is complete. -/
theorem fill_reaches (missing : Nat) (tokens : Array String) (source : TokenSource) :
    tokens.size + missing ≤ (fill missing tokens source).tokens.size ∨
      (fill missing tokens source).source = none := by
  induction missing generalizing tokens source with
  | zero => exact .inl (Nat.le_refl _)
  | succ missing ih =>
      rw [fill]
      cases source.next? with
      | none => exact .inr rfl
      | some token =>
          have reached := ih (tokens.push token) source.later
          rw [Array.size_push] at reached
          exact reached.imp_left fun far => by
            rw [Nat.add_assoc, Nat.add_comm 1] at far
            exact far

@[simp] theorem contents_pull (buffer : TokenBuffer) (index : Nat) :
    (buffer.pull index).contents = buffer.contents := by
  obtain ⟨tokens, source⟩ := buffer
  cases source with
  | none => rfl
  | some source => exact contents_fill _ tokens source

/-- A pull takes the tokens up to what was asked for, as far as there are any. -/
theorem tokens_fill (missing : Nat) (tokens : Array String) (source : TokenSource) :
    (fill missing tokens source).tokens.toList =
      (tokens.toList ++ source.given).take (tokens.size + missing) := by
  induction missing generalizing tokens source with
  | zero =>
      rw [← Array.length_toList, Supply.take_append]
      exact (List.append_nil _).symm
  | succ missing ih =>
      rw [fill]
      cases answer : source.next? with
      | none =>
          rw [TokenSource.given_of_none answer, ← Array.length_toList, Supply.take_append,
            Supply.take_nil, List.append_nil]
      | some token =>
          rw [ih, TokenSource.given_of_some answer, Array.size_push, Array.toList_push,
            Supply.append_assoc, Nat.add_assoc, Nat.add_comm 1]

theorem tokens_pull (buffer : TokenBuffer) (index : Nat) :
    (buffer.pull index).tokens.toList =
      buffer.contents.take (max buffer.tokens.size (index + 1)) := by
  obtain ⟨tokens, source⟩ := buffer
  cases source with
  | none =>
      obtain ⟨further, reach⟩ := Nat.le.dest (Nat.le_max_left tokens.size (index + 1))
      rw [← reach, ← Array.length_toList]
      change tokens.toList = (tokens.toList ++ (Supply.nil : Supply String)).take _
      rw [Supply.take_append, Supply.take_nil, List.append_nil]
  | some source =>
      have enough : tokens.size + (index + 1 - tokens.size) = max tokens.size (index + 1) := by
        omega
      rw [← enough]
      exact tokens_fill _ tokens source

theorem pull_reaches (buffer : TokenBuffer) (index : Nat) :
    index < (buffer.pull index).tokens.size ∨ (buffer.pull index).source = none := by
  obtain ⟨tokens, source⟩ := buffer
  cases source with
  | none => exact .inr rfl
  | some source =>
      have reached := fill_reaches (index + 1 - tokens.size) tokens source
      exact reached.imp_left fun far => by
        change index < (fill (index + 1 - tokens.size) tokens source).tokens.size
        omega

theorem pull_of_ended {buffer : TokenBuffer} (ended : buffer.source = none) (index : Nat) :
    buffer.pull index = buffer := by
  simp only [pull, ended]

theorem pull_of_lt {buffer : TokenBuffer} {index : Nat} (pulled : index < buffer.tokens.size) :
    buffer.pull index = buffer := by
  obtain ⟨tokens, source⟩ := buffer
  cases source with
  | none => rfl
  | some source =>
      have nothing : index + 1 - tokens.size = 0 := Nat.sub_eq_zero_of_le pulled
      simp only [pull, nothing, fill]

/-- What was pulled is not pulled again. -/
@[simp] theorem pull_pull (buffer : TokenBuffer) (index : Nat) :
    (buffer.pull index).pull index = buffer.pull index := by
  rcases buffer.pull_reaches index with pulled | ended
  · exact pull_of_lt pulled
  · exact pull_of_ended ended index

theorem getElem?_pull (buffer : TokenBuffer) (index : Nat) :
    (buffer.pull index).tokens[index]? = buffer.contents[index]? := by
  have reached : index < max buffer.tokens.size (index + 1) := by omega
  rw [← Array.getElem?_toList, tokens_pull, Supply.getElem?_take, if_pos reached]

/-- A look at an index answers from the contents. -/
theorem get?_eq (index : Nat) (buffer : TokenBuffer) :
    get? index buffer = (buffer.contents[index]?, buffer.pull index) := by
  simp only [get?, getElem?_pull]

end TokenBuffer

namespace TokenCursor

/-- A conditional take answers from the contents. -/
theorem takeIf?_eq (s : TokenCursor) (condition : String → Bool) (buffer : TokenBuffer) :
    s.takeIf? condition buffer =
      ((buffer.contents[s.index]?.filter condition).map (·, s.advance),
        buffer.pull s.index) := by
  simp only [takeIf?, current?, TokenBuffer.get?_eq]
  cases buffer.contents[s.index]? with
  | none => rfl
  | some token => by_cases holds : condition token = true <;> simp [Option.filter, holds]

/-- Only a token that is there can be consumed. -/
theorem of_takeIf? {s : TokenCursor} {condition : String → Bool} {buffer : TokenBuffer}
    {taken : String × TokenCursor} (success : (s.takeIf? condition buffer).1 = some taken) :
    taken.2 = s.advance ∧ buffer.contents[s.index]? = some taken.1 := by
  rw [takeIf?_eq, Option.map_eq_some_iff] at success
  obtain ⟨token, found, rfl⟩ := success
  exact ⟨rfl, (Option.filter_eq_some_iff.mp found).1⟩

theorem atEnd_eq (s : TokenCursor) (buffer : TokenBuffer) :
    Cursor.atEnd s buffer =
      (buffer.contents[s.index]?.isNone, buffer.pull s.index) := by
  simp only [Cursor.atEnd, current?, TokenBuffer.get?_eq]

theorem peek?_eq (s : TokenCursor) (buffer : TokenBuffer) :
    Cursor.peek? s buffer = (buffer.contents[s.index]?, buffer.pull s.index) := by
  simp only [Cursor.peek?, current?, TokenBuffer.get?_eq]

@[simp] theorem contents_takeIf? (s : TokenCursor) (condition : String → Bool)
    (buffer : TokenBuffer) : (s.takeIf? condition buffer).2.contents = buffer.contents := by
  rw [takeIf?_eq, TokenBuffer.contents_pull]

@[simp] theorem contents_atEnd (s : TokenCursor) (buffer : TokenBuffer) :
    (Cursor.atEnd s buffer).2.contents = buffer.contents := by
  rw [atEnd_eq, TokenBuffer.contents_pull]

@[simp] theorem contents_peek? (s : TokenCursor) (buffer : TokenBuffer) :
    (Cursor.peek? s buffer).2.contents = buffer.contents := by
  rw [peek?_eq, TokenBuffer.contents_pull]

@[simp] theorem contents_take? (s : TokenCursor) (expected : String) (buffer : TokenBuffer) :
    (Cursor.take? s expected buffer).2.contents = buffer.contents :=
  s.contents_takeIf? _ buffer

@[simp] theorem contents_takeSymbol? (s : TokenCursor) (accept : Char → Bool)
    (buffer : TokenBuffer) :
    (SymbolCursor.takeSymbol? s accept buffer).2.contents = buffer.contents :=
  s.contents_takeIf? _ buffer

end TokenCursor

end Descent
