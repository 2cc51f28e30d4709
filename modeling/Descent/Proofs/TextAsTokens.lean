import Descent.Proofs.Correspondence.Symbols
import Descent.Proofs.Cursor.Buffer
import Descent.Proofs.Cursor.Text

/-!
# Texts as tokens of one character

A text can be parsed as it is, or as the list of its characters with one token for
each.  Text cursors count bytes and token cursors count tokens, and each kind has
its own way to compare items, to judge symbols and to see the end.  Grammars that
expect single characters and do not ask for positions come to the same outcome.
-/

namespace Descent

/-- The characters of a text, one to a token. -/
def characterTokens (input : String) : List String := input.toList.map String.singleton

/-- Whether a node of a grammar expects at most one character and does not yield a
position. -/
def Grammar.isCharacterwise {κ : Type} : Grammar String κ → Bool
  | .exact item => item.toList.length == 1
  | .here _ => false
  | _ => true

/-- A text cursor and a token cursor, comparing alike, after as many characters as
tokens. -/
structure SamePlace (input : String) (caseInsensitive : Bool) (s : TextCursor)
    (t : TokenCursor) : Prop where
  text : s = TextCursor.after input ⟨caseInsensitive⟩ t.index
  folding : t.caseInsensitive = caseInsensitive
  within : t.index ≤ input.toList.length

namespace SamePlace

variable {input : String} {caseInsensitive : Bool} {s r : TextCursor} {t u : TokenCursor}
  {buffer : TokenBuffer}

theorem start : SamePlace input caseInsensitive (TextCursor.start input ⟨caseInsensitive⟩)
    ⟨0, caseInsensitive⟩ :=
  ⟨TextCursor.start_eq_after input _, rfl, Nat.zero_le _⟩

theorem progress (before : SamePlace input caseInsensitive s t)
    (later : SamePlace input caseInsensitive r u) :
    Cursor.position r = Cursor.position s ↔ Cursor.position u = Cursor.position t := by
  obtain ⟨rfl, _, within⟩ := before
  obtain ⟨rfl, _, laterWithin⟩ := later
  exact TextCursor.offset_after_inj laterWithin within

theorem token (characters : buffer.contents = .ofList (characterTokens input)) :
    buffer.contents[t.index]? = input.toList[t.index]?.map String.singleton := by
  rw [characters, Supply.getElem?_ofList, characterTokens, List.getElem?_map]

theorem atEnd (there : SamePlace input caseInsensitive s t)
    (characters : buffer.contents = .ofList (characterTokens input)) :
    (Cursor.atEnd s ()).1 = (Cursor.atEnd t buffer).1 := by
  obtain ⟨rfl, _, _⟩ := there
  rw [TextCursor.atEnd_eq, TokenCursor.atEnd_eq, token characters, TextCursor.after_unread,
    ← List.head?_drop]
  cases input.toList.drop t.index with
  | nil => rfl
  | cons => rfl

theorem peek (there : SamePlace input caseInsensitive s t)
    (characters : buffer.contents = .ofList (characterTokens input)) :
    s.peek? = (Cursor.peek? t buffer).1 := by
  obtain ⟨rfl, _, _⟩ := there
  rw [TextCursor.peek?_eq, TokenCursor.peek?_eq, token characters, TextCursor.after_unread,
    ← List.head?_drop]

/-- A condition on characters and one on tokens that agree on single characters take
the same character. -/
theorem takeIf (there : SamePlace input caseInsensitive s t)
    (characters : buffer.contents = .ofList (characterTokens input)) {accept : Char → Bool}
    {condition : String → Bool}
    (agree : ∀ c, condition (String.singleton c) = accept c) :
    Option.Rel (Placed (SamePlace input caseInsensitive)) (s.takeSymbol? accept)
      (t.takeIf? condition buffer).1 := by
  obtain ⟨rfl, folding, within⟩ := there
  rw [TextCursor.takeSymbol?_after, TokenCursor.takeIf?_eq, token characters]
  cases found : input.toList[t.index]? with
  | none => exact .none
  | some c =>
      have unread : t.index < input.toList.length := (List.getElem?_eq_some_iff.mp found).1
      have judged := agree c
      cases accepted : accept c with
      | false =>
          rw [accepted] at judged
          simp only [Option.map_some, Option.filter, accepted, judged]
          exact .none
      | true =>
          rw [accepted] at judged
          simp only [Option.map_some, Option.filter, accepted, judged]
          exact .some (.same ⟨rfl, folding, unread⟩)

theorem take (there : SamePlace input caseInsensitive s t)
    (characters : buffer.contents = .ofList (characterTokens input)) (expected : Char) :
    Option.Rel (Placed (SamePlace input caseInsensitive))
      (s.take? (String.singleton expected))
      (Cursor.take? t (String.singleton expected) buffer).1 := by
  rw [TextCursor.take?_singleton]
  refine there.takeIf characters fun c => ?_
  have options : s.options = ⟨t.caseInsensitive⟩ := by rw [there.text, there.folding]; rfl
  have compared : (String.singleton c == String.singleton expected) = (c == expected) := by
    rw [Bool.eq_iff_iff, beq_iff_eq, beq_iff_eq, ← String.toList_inj]
    simp
  simp only [options, TokenCursor.agrees, TextCursor.agrees, Unicode.foldEq, Unicode.fold,
    String.toList_singleton, compared]

end SamePlace

theorem TokenCursor.isSymbol_singleton (accept : Char → Bool) (c : Char) :
    TokenCursor.isSymbol accept (String.singleton c) = accept c := by
  simp [TokenCursor.isSymbol]

/-- Texts correspond to their characters as tokens. -/
def TextCursor.asTokens (input : String) (caseInsensitive : Bool) :
    Correspondence TextCursor TokenCursor where
  cursors := SamePlace input caseInsensitive
  shared _ buffer := buffer.contents = .ofList (characterTokens input)
  journals := .unrestricted
  expects item := ∃ c, item = String.singleton c
  tellsPositions := False
  atEnd there _ buffer characters :=
    ⟨there.atEnd characters, (TokenCursor.contents_atEnd _ buffer).trans characters⟩
  peek there _ buffer characters := by
    refine ⟨⟨there.peek characters, ?_⟩, (TokenCursor.contents_peek? _ buffer).trans characters⟩
    intro item member
    obtain ⟨c, _, rfl⟩ := Option.map_eq_some_iff.mp member
    exact ⟨c, rfl⟩
  take expectable there _ buffer characters := by
    obtain ⟨c, rfl⟩ := expectable
    exact ⟨there.take characters c, (TokenCursor.contents_take? _ _ buffer).trans characters⟩
  entryPositions _ := trivial
  progress := SamePlace.progress
  samePositions told := told.elim

namespace TextCursor.asTokens

variable {input : String} {caseInsensitive : Bool}

theorem symbolic : (TextCursor.asTokens input caseInsensitive).Symbolic where
  takeSymbol there accept _ buffer characters :=
    ⟨there.takeIf characters (TokenCursor.isSymbol_singleton accept),
      (TokenCursor.contents_takeSymbol? _ accept buffer).trans characters⟩
  marks mark member := by
    have cases : mark = "+" ∨ mark = "-" ∨ mark = "." := by simpa using member
    rcases cases with rfl | rfl | rfl
    · exact ⟨'+', rfl⟩
    · exact ⟨'-', rfl⟩
    · exact ⟨'.', rfl⟩

theorem admits {part : Grammar String TextLeaf} (characterwise : part.isCharacterwise = true) :
    (TextCursor.asTokens input caseInsensitive).Admits part := by
  cases part with
  | exact item =>
      have single : item.toList.length = 1 := by simpa [Grammar.isCharacterwise] using characterwise
      obtain ⟨c, only⟩ := List.length_eq_one_iff.mp single
      refine ⟨c, String.toList_inj.mp ?_⟩
      rw [only, String.toList_singleton]
  | here label => simp [Grammar.isCharacterwise] at characterwise
  | _ => trivial

end TextCursor.asTokens

variable {rules : Rules String TextLeaf} {grammar : Grammar String TextLeaf}

/-- A text and its characters as tokens are parsed alike. -/
theorem characterTokens_parse_alike
    (characterwise : ∀ part ∈ grammar.parts, part.isCharacterwise = true)
    (characterwiseRules : ∀ part ∈ rules.parts, part.isCharacterwise = true)
    (input : String) (caseInsensitive : Bool) (depth : Nat) :
    Outcome.Alike (SamePlace input caseInsensitive)
      (grammar.parse rules (TextCursor.start input ⟨caseInsensitive⟩) ⟨(), depth⟩).value
      (grammar.parse rules (⟨0, caseInsensitive⟩ : TokenCursor)
        ⟨.start ((characterTokens input).map some), depth⟩).value := by
  have admitted : ∀ part ∈ grammar.parts,
      (TextCursor.asTokens input caseInsensitive).Admits part :=
    fun part member => TextCursor.asTokens.admits (characterwise part member)
  have admittedRules : ∀ part ∈ rules.parts,
      (TextCursor.asTokens input caseInsensitive).Admits part :=
    fun part member => TextCursor.asTokens.admits (characterwiseRules part member)
  have runs := Correspondence.parse_alike TextCursor.asTokens.symbolic.leafwise rules
    grammar admitted admittedRules SamePlace.start
  have characters :
      (TokenBuffer.start ((characterTokens input).map some)).contents =
        .ofList (characterTokens input) := by
    rw [TokenBuffer.contents_start, TokenBuffer.answered_map_some]
  exact (runs depth (Nat.zero_le _) () _ characters).value

/-- Accented letters, numbers and nested brackets, told apart while ignoring case.  A bracket
that is not closed is left: in front of it are eight bytes, and six characters. -/
theorem characterTokens_parse_alike_brackets :
    let rules : Rules String TextLeaf :=
      [("list", .many (.firstOf [.exact "é", .leaf .number, .deferred "" "brackets" .standard])
          .standard),
        ("brackets", .between (.exact "(") (.exact ")") (.rule "list"))]
    let grammar : Grammar String TextLeaf := .rule "list"
    (∀ part ∈ grammar.parts, part.isCharacterwise = true) ∧
      (∀ part ∈ rules.parts, part.isCharacterwise = true) ∧
      Outcome.Alike (SamePlace "É1(2É)(" true)
        (grammar.parse rules (TextCursor.start "É1(2É)(" ⟨true⟩) ⟨(), 0⟩).value
        (grammar.parse rules (⟨0, true⟩ : TokenCursor)
          ⟨.start ((characterTokens "É1(2É)(").map some), 0⟩).value ∧
      (grammar.parse rules (TextCursor.start "É1(2É)(" ⟨true⟩) ⟨(), 0⟩).value =
        .success (.list [.text "É", .float 0x3FF0000000000000,
            .list [.float 0x4000000000000000, .text "É"]])
          ⟨"É1(2É)(", 8, ⟨true⟩, by decide⟩ ∧
      (grammar.parse rules (⟨0, true⟩ : TokenCursor)
          ⟨.start ((characterTokens "É1(2É)(").map some), 0⟩).value =
        .success (.list [.text "É", .float 0x3FF0000000000000,
            .list [.float 0x4000000000000000, .text "É"]]) ⟨6, true⟩ :=
  ⟨by decide, by decide, characterTokens_parse_alike (by decide) (by decide) "É1(2É)(" true 0,
    by decide +kernel, by decide +kernel⟩

end Descent
