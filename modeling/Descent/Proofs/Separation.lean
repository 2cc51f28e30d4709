import Descent.Proofs.Bounds
import Descent.Proofs.Numerals
import Descent.Proofs.Rounds

/-!
# Separated items

From every place of every kind of input, separated repetitions read rounds of items and
delimiters.  On texts they read rows of digits back, whichever of the digits are followed by
the delimiter.
-/

namespace Descent

variable {σ ι κ ω : Type}

/-- Contexts with a shared state of a kind, and with so many deferred parsers open. -/
def Context.Within (shared : ω → Prop) (depth : Nat) (context : Context ω) : Prop :=
  shared context.shared ∧ context.depth = depth

/-- What invariants say of the places ahead makes parses tread there. -/
theorem Treads.of_invariants [Cursor σ ι ω] [Item ι] [Leaves κ σ ω] {there : σ → Prop}
    {shared : ω → Prop} {rules : Rules ι κ} (context : Context ω) (start : shared context.shared)
    (onward : ∀ {s}, there s → ∃ invariant : Invariant σ,
      (∀ state, invariant.shared state ↔ shared state) ∧
        (invariant.diagonal .unrestricted fun _ => trivial).Leafwise κ ∧ invariant.cursors s ∧
        ∀ r, invariant.cursors r → there r ∧ Cursor.position s ≤ Cursor.position r)
    (same : ∀ (grammar : Grammar ι κ) (s : σ) (other : Context ω),
      other.Within shared context.depth →
        (grammar.parse rules s other).value = (grammar.parse rules s context).value)
    (grammar : Grammar ι κ) :
    Treads there (Context.Within shared context.depth) (grammar.parse rules)
      fun s => (grammar.parse rules s context).value where
  settles {s} here := by
    obtain ⟨invariant, shares, leaves, starts, _⟩ := onward here
    refine ⟨fun other within => same grammar s other within, ?_⟩
    intro other ⟨sharing, depth⟩
    obtain ⟨_, kept, depth'⟩ :=
      Invariant.parse leaves rules grammar starts other ((shares _).mpr sharing)
    exact ⟨(shares _).mp kept, depth'.trans depth⟩
  stays {s} here := by
    obtain ⟨invariant, shares, leaves, starts, ahead⟩ := onward here
    have rests := Invariant.parse leaves rules grammar starts context ((shares _).mpr start)
    exact (ahead _ rests.1).1
  forward {s} here := by
    obtain ⟨invariant, shares, leaves, starts, ahead⟩ := onward here
    have rests := Invariant.parse leaves rules grammar starts context ((shares _).mpr start)
    exact (ahead _ rests.1).2

namespace TextCursor

variable {input : String} {options : TextOptions}

/-- The places of a text. -/
def Rests (input : String) (options : TextOptions) (s : TextCursor) : Prop :=
  ∃ count, s = after input options count

theorem terrain (short : input.utf8ByteSize ≤ Limits.unlimited) (depth : Nat) :
    Terrain (Rests input options) (Context.Within (fun _ : Unit => True) depth)
      fun s => (Cursor.atEnd s ()).1 where
  bounded := by
    rintro _ ⟨count, rfl⟩
    have inside : (after input options count).offset ≤ input.utf8ByteSize :=
      (after input options count).boundary.le_utf8ByteSize
    exact inside.trans short
  distinct := by
    rintro _ _ ⟨first, rfl⟩ ⟨second, rfl⟩ same
    exact TextCursor.ext rfl same rfl
  asks _ := ⟨fun _ _ => rfl, fun _ within => within⟩

theorem treads (rules : Rules String TextLeaf) (depth : Nat) (grammar : Grammar String TextLeaf) :
    Treads (Rests input options) (Context.Within (fun _ : Unit => True) depth)
      (grammar.parse rules) fun s => (grammar.parse rules s ⟨(), depth⟩).value := by
  apply Treads.of_invariants ⟨(), depth⟩ trivial
  · rintro _ ⟨count, rfl⟩
    refine ⟨onward input options count, fun _ => Iff.rfl,
      (onward_observed input options count).leaves, ⟨count, Nat.le_refl count, rfl⟩, ?_⟩
    rintro _ ⟨further, ahead, rfl⟩
    exact ⟨⟨further, rfl⟩, offset_after_mono ahead⟩
  · rintro grammar s other ⟨_, rfl⟩
    rfl

end TextCursor

namespace TokenCursor

variable {tokens : Supply String} {caseInsensitive : Bool}

/-- The places among tokens. -/
def Rests (tokens : Supply String) (caseInsensitive : Bool) (s : TokenCursor) : Prop :=
  tokens.Reaches s.index ∧ s.caseInsensitive = caseInsensitive

theorem terrain (short : tokens[Limits.unlimited]? = none) {context : Context TokenBuffer}
    (holds : context.shared.contents = tokens) :
    Terrain (Rests tokens caseInsensitive)
      (Context.Within (fun buffer : TokenBuffer => buffer.contents = tokens) context.depth)
      fun s => (Cursor.atEnd s context.shared).1 where
  bounded := by
    intro s ⟨within, _⟩
    exact Supply.le_of_reaches within short
  distinct := by
    rintro ⟨index, _⟩ ⟨_, _⟩ ⟨_, rfl⟩ ⟨_, sameCase⟩ same
    cases sameCase
    cases same
    rfl
  asks {s} _ := by
    constructor
    · intro other ⟨contents, _⟩
      rw [Run.ask_apply, atEnd_eq, atEnd_eq, contents, holds]
    · intro other ⟨contents, depth⟩
      exact ⟨(s.contents_atEnd _).trans contents, depth⟩

theorem treads (rules : Rules String TextLeaf) {context : Context TokenBuffer}
    (holds : context.shared.contents = tokens) (grammar : Grammar String TextLeaf) :
    Treads (Rests tokens caseInsensitive)
      (Context.Within (fun buffer : TokenBuffer => buffer.contents = tokens) context.depth)
      (grammar.parse rules) fun s => (grammar.parse rules s context).value := by
  apply Treads.of_invariants context holds
  · intro s ⟨within, sameCase⟩
    refine ⟨onward tokens (· = caseInsensitive) s.index, fun _ => Iff.rfl, onward_leafwise,
      ⟨Nat.le_refl _, within, sameCase⟩, ?_⟩
    intro r ⟨ahead, inside, sameCase'⟩
    exact ⟨⟨inside, sameCase'⟩, ahead⟩
  · intro grammar s other ⟨contents, depth⟩
    exact (parse_of_contents rules grammar s depth (contents.trans holds.symm)).1

end TokenCursor

namespace SliceCursor

variable {items : Array ι} {agrees : ι → ι → Bool}

/-- The places of an array. -/
def Rests (items : Array ι) (agrees : ι → ι → Bool) (s : SliceCursor ι) : Prop :=
  s.items = items ∧ s.agrees = agrees ∧ s.index ≤ items.size

theorem terrain (short : items.size ≤ Limits.unlimited) (depth : Nat) :
    Terrain (Rests items agrees) (Context.Within (fun _ : Unit => True) depth)
      fun s => (Cursor.atEnd s ()).1 where
  bounded := by
    intro s ⟨_, _, within⟩
    exact within.trans short
  distinct := by
    rintro ⟨_, _, _⟩ ⟨_, _, _⟩ ⟨rfl, rfl, _⟩ ⟨sameItems, sameComparison, _⟩ same
    cases sameItems
    cases sameComparison
    cases same
    rfl
  asks _ := ⟨fun _ _ => rfl, fun _ within => within⟩

theorem treads [Item ι] (rules : Rules ι Empty) (depth : Nat) (grammar : Grammar ι Empty) :
    Treads (Rests items agrees) (Context.Within (fun _ : Unit => True) depth)
      (grammar.parse rules) fun s => (grammar.parse rules s ⟨(), depth⟩).value := by
  apply Treads.of_invariants ⟨(), depth⟩ trivial
  · intro s ⟨sameItems, sameComparison, within⟩
    refine ⟨onward items agrees s.index, fun _ => Iff.rfl, Correspondence.leafwise_empty,
      ⟨sameItems, sameComparison, Nat.le_refl _, within⟩, ?_⟩
    intro r ⟨restItems, restComparison, ahead, inside⟩
    exact ⟨⟨restItems, restComparison, inside⟩, ahead⟩
  · rintro grammar s other ⟨_, rfl⟩
    rfl

end SliceCursor

open Text (isDigit)
open TextCursor (onText)

/-- A digit, and whether the delimiter follows it. -/
structure Cell where
  digit : Char
  delimited : Bool
  isDigit : isDigit digit = true

namespace Cell

def text (delimiter : List Char) (cell : Cell) : List Char :=
  cell.digit :: if cell.delimited then delimiter else []

def value (cell : Cell) : Value := .text (String.singleton cell.digit)

/-- What follows a row is no digit nor, after a digit without one, the delimiter. -/
def Ends (delimiter : List Char) (row : List Cell) (rest : List Char) : Prop :=
  NoDigit rest ∧ ∀ cell ∈ row.getLast?, cell.delimited = false → ¬delimiter <+: rest

theorem Ends.tail {delimiter : List Char} {cell : Cell} {row : List Cell} {rest : List Char}
    (ends : Ends delimiter (cell :: row) rest) : Ends delimiter row rest := by
  obtain ⟨noDigit, last⟩ := ends
  refine ⟨noDigit, ?_⟩
  cases row with
  | nil => exact nofun
  | cons next row =>
      rw [List.getLast?_cons_cons] at last
      exact last

end Cell

namespace Parser

variable {delimiter : String} {rest : List Char}

/-- A delimiter that follows no digit does not follow the row so far either. -/
theorem not_prefix_row (some : delimiter ≠ "") (noDigit : NoDigit delimiter.toList)
    {cell : Cell} {row : List Cell} (ends : Cell.Ends delimiter.toList (cell :: row) rest)
    (bare : cell.delimited = false) :
    ¬delimiter.toList <+: row.flatMap (Cell.text delimiter.toList) ++ rest := by
  cases row with
  | nil => exact ends.2 cell rfl bare
  | cons next row =>
      obtain ⟨c, cs, spelled⟩ := List.exists_cons_of_ne_nil (String.toList_eq_nil_iff.not.mpr some)
      rw [spelled] at noDigit ⊢
      rw [List.flatMap_cons, Cell.text, List.cons_append, List.cons_append,
        List.cons_prefix_cons]
      rintro ⟨rfl, _⟩
      exact absurd next.isDigit (Bool.eq_false_iff.mp (noDigit _ rfl))

/-- What stands between a digit and the next one is read as an optional delimiter. -/
theorem delimiter_reads (some : delimiter ≠ "") (noDigit : NoDigit delimiter.toList)
    {cell : Cell} {row : List Cell} (ends : Cell.Ends delimiter.toList (cell :: row) rest)
    (context : Context Unit) :
    ∃ found, ((exact delimiter).map Value.text).optional.Reads context
      (if cell.delimited then delimiter.toList else []) found
      (row.flatMap (Cell.text delimiter.toList) ++ rest) := by
  cases follows : cell.delimited with
  | true =>
      have left : delimiter.toList ++ (row.flatMap (Cell.text delimiter.toList) ++ rest) ≠ [] := by
        simp [some]
      exact ⟨_, ((exact_reads left).map Value.text).optional⟩
  | false =>
      exact ⟨_, ((exact_misses (not_prefix_row some noDigit ends follows)).map
        Value.text).optional⟩

theorem row_reads (some : delimiter ≠ "") (noDigit : NoDigit delimiter.toList) {row : List Cell}
    (ends : Cell.Ends delimiter.toList row rest) (context : Context Unit) :
    (delimited ((exact delimiter).map Value.text) (digit.map Value.text)).ReadsRow context rest
      (row.flatMap (Cell.text delimiter.toList)) (row.map Cell.value) := by
  induction row with
  | nil => exact .done (((digit_fails ends.1).misses.map Value.text).delimited _)
  | cons cell row ih =>
      obtain ⟨found, delimits⟩ := delimiter_reads some noDigit ends context
      have reads := ((digit_reads cell.isDigit _).map Value.text).delimited delimits
        (List.cons_ne_nil _ _)
      exact .next (List.cons_ne_nil _ _) reads (ih ends.tail)

end Parser

/-- Digits with a delimiter between them. -/
def separatedDigits (delimiter : String) : Grammar String TextLeaf :=
  .separated (.exact delimiter) (.leaf .digit) .standard

theorem separatedDigits_yields {delimiter text : String} {row : List Cell} {rest : List Char}
    (some : delimiter ≠ "") (noDigit : NoDigit delimiter.toList)
    (ends : Cell.Ends delimiter.toList row rest)
    (split : text.toList = row.flatMap (Cell.text delimiter.toList) ++ rest)
    (short : text.utf8ByteSize ≤ Limits.unlimited) (rules : Rules String TextLeaf)
    (context : Context Unit) :
    ((separatedDigits delimiter).parse rules (TextCursor.start text .standard)).Yields context
      (.success (.list (row.map Cell.value))
        (TextCursor.after text .standard
          (row.flatMap (Cell.text delimiter.toList)).length)) := by
  have reads := Parser.row_reads some noDigit ends context
  have enough : (row.map Cell.value).length ≤ Limits.standard.maxRepetitions := by
    have length := reads.length_le
    have within := TextCursor.length_le_unlimited short
    rw [split, List.length_append] at within
    exact length.trans ((Nat.le_add_right _ _).trans within)
  have yields := reads.many_run rfl enough "SEPARATED" []
  have parser : (Grammar.delimited rules (.exact delimiter) (.leaf .digit) .standard :
      Parser TextCursor Unit Value) =
      Parser.delimited ((Parser.exact delimiter).map Value.text) (Parser.digit.map Value.text) := by
    rw [Grammar.delimited, Grammar.build, Grammar.build]
    rfl
  rw [TextCursor.start_eq_onText split, TextCursor.after_eq_onText split]
  exact Grammar.separated_settles (parser ▸ yields)

/-- What separated repetitions read, from every place of every kind of input; and rows of digits
with delimiters. -/
theorem separated_reads_rounds :
    (∀ (input : String) (options : TextOptions) (count : Nat),
      input.utf8ByteSize ≤ Limits.unlimited →
        ∀ (rules : Rules String TextLeaf) (d p : Grammar String TextLeaf) (depth : Nat),
          Grammar.Separates rules d p (TextCursor.after input options count) ⟨(), depth⟩) ∧
    (∀ (s : TokenCursor) (context : Context TokenBuffer),
      context.shared.contents.Reaches s.index →
        context.shared.contents[Limits.unlimited]? = none →
          ∀ (rules : Rules String TextLeaf) (d p : Grammar String TextLeaf),
            Grammar.Separates rules d p s context) ∧
    (∀ (ι : Type) [Item ι] (s : SliceCursor ι),
      s.index ≤ s.items.size → s.items.size ≤ Limits.unlimited →
        ∀ (rules : Rules ι Empty) (d p : Grammar ι Empty) (depth : Nat),
          Grammar.Separates rules d p s ⟨(), depth⟩) ∧
    ∀ (delimiter text : String) (row : List Cell) (rest : List Char), delimiter ≠ "" →
      NoDigit delimiter.toList → Cell.Ends delimiter.toList row rest →
        text.toList = row.flatMap (Cell.text delimiter.toList) ++ rest →
          text.utf8ByteSize ≤ Limits.unlimited →
            ∀ (rules : Rules String TextLeaf) (context : Context Unit),
              ((separatedDigits delimiter).parse rules (TextCursor.start text .standard)).Yields
                context (.success (.list (row.map Cell.value))
                  (TextCursor.after text .standard
                    (row.flatMap (Cell.text delimiter.toList)).length)) := by
  refine ⟨?_, ?_, ?_, ?_⟩
  · intro input options count short rules d p depth
    exact Grammar.separates Correspondence.counted_leafwise (TextCursor.terrain short depth)
      (TextCursor.treads rules depth) ⟨trivial, rfl⟩ d p ⟨count, rfl⟩
  · intro s context within short rules d p
    exact Grammar.separates Correspondence.counted_leafwise (TokenCursor.terrain short rfl)
      (TokenCursor.treads rules rfl) ⟨rfl, rfl⟩ d p ⟨within, rfl⟩
  · intro ι _ s within short rules d p depth
    exact Grammar.separates Correspondence.leafwise_empty (SliceCursor.terrain short depth)
      (SliceCursor.treads rules depth) ⟨trivial, rfl⟩ d p ⟨rfl, rfl, within⟩
  · intro delimiter text row rest some noDigit ends split short rules context
    exact separatedDigits_yields some noDigit ends split short rules context

/-- Digits of which the first and the last are followed by a comma; a second comma in a row
ends the rounds. -/
theorem separated_reads_rounds_digits :
    ((separatedDigits ",").parse [] (TextCursor.start "1,23,x" .standard)).Yields ⟨(), 0⟩
        (.success (.list [.text "1", .text "2", .text "3"])
          (TextCursor.after "1,23,x" .standard 5)) ∧
      ((separatedDigits ",").parse [] (TextCursor.after "1,,2" .standard 0) ⟨(), 0⟩).value =
        .success (.list [.text "1"]) (TextCursor.after "1,,2" .standard 2) := by
  constructor
  · let row : List Cell :=
      [⟨'1', true, by decide⟩, ⟨'2', false, by decide⟩, ⟨'3', true, by decide⟩]
    have ends : Cell.Ends [','] row ['x'] := by
      refine ⟨by decide, ?_⟩
      rintro _ ⟨⟩ bare
      cases bare
    exact separated_reads_rounds.2.2.2 "," "1,23,x" row ['x'] (by decide) (by decide) ends rfl
      (by decide) [] ⟨(), 0⟩
  · have separates : Grammar.Separates [] (.exact ",") (.leaf TextLeaf.digit)
        (TextCursor.after "1,,2" .standard 0) ⟨(), 0⟩ :=
      separated_reads_rounds.1 "1,,2" .standard 0 (by decide) [] _ _ 0
    exact separates.separated (.next rfl (by decide) (.refused rfl))

end Descent
