import Descent.Cursor.Basic
import Descent.Unicode.Lowercase

/-!
# Cursors over lazily produced tokens

Tokens are pulled from their source only when a cursor looks at them, and are kept
in a buffer that all cursors over one input share.  Once the source has answered
that it has no further token it is dropped and never asked again.
-/

namespace Descent

/-- A source of tokens: its answer to each question, and how many it has been asked.  It need
not ever answer with none, and may answer with a token after it has. -/
structure TokenSource where
  answer : Nat → Option String
  asked : Nat

namespace TokenSource

/-- A source with the given answers, and none after them. -/
def ofList (answers : List (Option String)) : TokenSource :=
  let answers := answers.toArray
  ⟨fun number => answers[number]?.join, 0⟩

/-- The next answer. -/
def next? (source : TokenSource) : Option String := source.answer source.asked

/-- The source once it has given its next answer. -/
def later (source : TokenSource) : TokenSource := { source with asked := source.asked + 1 }

end TokenSource

/-- Tokens pulled so far, and the source they came from; one that has ended is dropped. -/
structure TokenBuffer where
  tokens : Array String
  source : Option TokenSource

namespace TokenBuffer

/-- Nothing pulled yet. -/
def fresh (source : TokenSource) : TokenBuffer := ⟨#[], some source⟩

/-- Nothing pulled yet from a source with the given answers. -/
def start (answers : List (Option String)) : TokenBuffer := fresh (.ofList answers)

/-- Asks the source for a number of further tokens, or until it ends. -/
def fill : Nat → Array String → TokenSource → TokenBuffer
  | 0, tokens, source => ⟨tokens, some source⟩
  | missing + 1, tokens, source =>
      match source.next? with
      | some token => fill missing (tokens.push token) source.later
      | none => ⟨tokens, none⟩

/-- The buffer after looking at an index. -/
def pull (buffer : TokenBuffer) (index : Nat) : TokenBuffer :=
  match buffer.source with
  | none => buffer
  | some source => fill (index + 1 - buffer.tokens.size) buffer.tokens source

/-- The token at an index. -/
def get? (index : Nat) : Query TokenBuffer (Option String) := fun buffer =>
  let filled := buffer.pull index
  (filled.tokens[index]?, filled)

end TokenBuffer

/-- A place among tokens. -/
structure TokenCursor where
  index : Nat
  caseInsensitive : Bool
  deriving DecidableEq, Repr

namespace TokenCursor

/-- The first token, with exact comparison. -/
def start : TokenCursor := ⟨0, false⟩

/-- The same place, comparing after lower-casing. -/
def foldingCase (s : TokenCursor) : TokenCursor := { s with caseInsensitive := true }

/-- The place after the current token. -/
def advance (s : TokenCursor) : TokenCursor := { s with index := s.index + 1 }

/-- The current token. -/
def current? (s : TokenCursor) : Query TokenBuffer (Option String) := TokenBuffer.get? s.index

/-- Whether a token is the expected one. -/
def agrees (s : TokenCursor) (token expected : String) : Bool :=
  if s.caseInsensitive then
    token.toList.flatMap Unicode.lower == expected.toList.flatMap Unicode.lower
  else
    token == expected

/-- Consumes the current token if a condition holds of it. -/
def takeIf? (s : TokenCursor) (condition : String → Bool) :
    Query TokenBuffer (Option (String × TokenCursor)) := fun buffer =>
  let (current, buffer) := s.current? buffer
  match current with
  | some token => (if condition token then some (token, s.advance) else none, buffer)
  | none => (none, buffer)

/-- Whether all characters of a token are accepted; no symbol is empty. -/
def isSymbol (accept : Char → Bool) (token : String) : Bool :=
  !token.isEmpty && token.toList.all accept

/-- The diagnostic text of a cursor, which shows the current token. -/
def describe (s : TokenCursor) : Query TokenBuffer String := fun buffer =>
  let (current, buffer) := s.current? buffer
  let shown := match current with
    | some token => "Some(" ++ Text.quoted token ++ ")"
    | none => "None"
  (Text.recordOf "TokenStream"
    [Text.field "index" (toString s.index), Text.field "current" shown, Text.ellipsis], buffer)

instance : SymbolCursor TokenCursor TokenBuffer where
  take? s expected := s.takeIf? (s.agrees · expected)
  atEnd s buffer :=
    let (current, buffer) := s.current? buffer
    (current.isNone, buffer)
  peek? s := s.current?
  position s := s.index
  takeSymbol? s accept := s.takeIf? (isSymbol accept)

end TokenCursor

end Descent
