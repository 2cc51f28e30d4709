import Descent.Place
import Descent.Proofs.CaseFolding
import Descent.Proofs.Conduct.Symbols

/-!
# What all kinds of cursor have in common

Texts, tokens and slices are read by different means, but under one contract: what is taken is
what comes next, the position moves by as much, and the cursor that was asked stands where it
stood.  The kinds differ in what their units are, and in whether an item agrees with itself.
-/

namespace Descent

variable {σ ι ω υ ο α β : Type}

/-- How a kind of cursor goes through an input that consists of units `υ`, of which there need
not be an end. -/
structure Layout (σ ι ω υ ο : Type) where
  /-- The whole input and the options. -/
  whole : σ → ω → ο
  unread : σ → ω → Supply υ
  /-- The units of an item. -/
  spell : ι → List υ
  /-- By how much an item moves the position. -/
  size : ι → Nat
  agreesWithItself : σ → ι → Prop

namespace Inspectable

/-- The ways to take something at a cursor: an expected item, or a symbol. -/
inductive Takes [Inspectable σ ι ω] (s : σ) : Option ι → Query ω (Option (ι × σ)) → Prop where
  | item (expected : ι) : Takes s (some expected) (Cursor.take? s expected)
  | symbol {take : σ → (Char → Bool) → Query ω (Option (ι × σ))}
      (judged : Inspectable.symbol? = some take) (accept : Char → Bool) :
      Takes s none (take s accept)

/-- All that a cursor can be asked. -/
inductive Asks [Inspectable σ ι ω] (s : σ) : {α : Type} → Query ω α → Prop where
  | takes {expected : Option ι} {take : Query ω (Option (ι × σ))} (way : Takes s expected take) :
      Asks s take
  | atEnd : Asks s (Cursor.atEnd s)
  | peek : Asks s (Cursor.peek? s)
  | describe : Asks s (Inspectable.describe s)

/-- Something was taken, which comes before what is left now. -/
structure Moves [Cursor σ ι ω] (layout : Layout σ ι ω υ ο) (s : σ) (shared : ω) (taken : ι)
    (rest : σ) (later : ω) : Prop where
  whole : layout.whole rest later = layout.whole s shared
  unread : layout.unread s shared = layout.spell taken ++ layout.unread rest later
  position : Cursor.position rest = Cursor.position s + layout.size taken

/-- The contract between a cursor and those who ask it. -/
structure Contract [Inspectable σ ι ω] (layout : Layout σ ι ω υ ο) (s : σ) (shared : ω) :
    Prop where
  atEnd : (Cursor.atEnd s shared).1 = true ↔ layout.unread s shared = .nil
  peek_none : (Cursor.peek? s shared).1 = none ↔ layout.unread s shared = .nil
  peek_some : ∀ {item}, (Cursor.peek? s shared).1 = some item →
    ∃ (unit : υ) (later : Supply υ),
      layout.spell item = [unit] ∧ layout.unread s shared = [unit] ++ later
  takes : ∀ {expected take taken rest}, Takes s expected take →
    (take shared).1 = some (taken, rest) → Moves layout s shared taken rest (take shared).2
  /-- Unless an empty item was expected, the position grows. -/
  strict : ∀ {expected take taken rest}, Takes s expected take →
    (∀ item ∈ expected, layout.spell item ≠ []) → (take shared).1 = some (taken, rest) →
      Cursor.position s < Cursor.position rest
  /-- An empty item is found everywhere. -/
  empty : ∀ {item}, layout.spell item = [] → (Cursor.take? s item shared).1 = some (item, s)
  /-- At the end nothing else is. -/
  ended : ∀ {expected take}, Takes s expected take →
    (∀ item ∈ expected, layout.spell item ≠ []) → (Cursor.atEnd s shared).1 = true →
      (take shared).1 = none
  /-- The next item is taken as it is, provided that it agrees with itself. -/
  again : ∀ {item}, (Cursor.peek? s shared).1 = some item →
    ((Cursor.take? s item shared).1.isSome = true ↔ layout.agreesWithItself s item) ∧
      ∀ taken ∈ (Cursor.take? s item shared).1, taken.1 = item
  /-- Whatever is asked of any cursor over the input, nothing becomes of this one. -/
  keeps : ∀ {t : σ} {α : Type} {asked : Query ω α}, Asks t asked →
    layout.whole s (asked shared).2 = layout.whole s shared ∧
      layout.unread s (asked shared).2 = layout.unread s shared
  steady : ∀ {t : σ} {α β : Type} {query : Query ω α} {asked : Query ω β}, Asks s query →
    Asks t asked → (query (asked shared).2).1 = (query shared).1

/-- Where the position grows, something was left. -/
theorem Moves.unread_ne_nil [Cursor σ ι ω] {layout : Layout σ ι ω υ ο} {s rest : σ}
    {shared later : ω} {taken : ι} (moves : Moves layout s shared taken rest later)
    (sized : layout.spell taken = [] → layout.size taken = 0)
    (strict : Cursor.position s < Cursor.position rest) : layout.unread s shared ≠ .nil := by
  intro ended
  have nothing := moves.unread.symm.trans ended
  have still := sized (Supply.eq_nil_of_append_eq_nil nothing)
  have position := moves.position
  omega

/-- Every query of a cursor is answered from the first item that is left. -/
structure Itemwise [Inspectable σ ι ω] (layout : Layout σ ι ω ι ο) (s next : σ) (shared : ω)
    (agrees : ι → ι → Bool) : Prop where
  spell : ∀ item, layout.spell item = [item]
  size : ∀ item, layout.size item = 1
  itself : ∀ item, layout.agreesWithItself s item ↔ agrees item item = true
  atEnd : (Cursor.atEnd s shared).1 = (layout.unread s shared)[0]?.isNone
  peek : (Cursor.peek? s shared).1 = (layout.unread s shared)[0]?
  take : ∀ {expected take}, Takes s expected take → ∃ condition,
    (∀ item ∈ expected, condition = agrees item) ∧
      (take shared).1 = ((layout.unread s shared)[0]?.filter condition).map (·, next)
  whole : layout.whole next shared = layout.whole s shared
  unread : layout.unread next shared = (layout.unread s shared).drop 1
  position : Cursor.position next = Cursor.position s + 1
  keeps : ∀ {t : σ} {α : Type} {asked : Query ω α}, Asks t asked → ∀ r : σ,
    layout.whole r (asked shared).2 = layout.whole r shared ∧
      layout.unread r (asked shared).2 = layout.unread r shared
  steady : ∀ {t : σ} {α β : Type} {query : Query ω α} {asked : Query ω β}, Asks s query →
    Asks t asked → (query (asked shared).2).1 = (query shared).1

namespace Itemwise

variable [Inspectable σ ι ω] {layout : Layout σ ι ω ι ο} {s next : σ} {shared : ω}
  {agrees : ι → ι → Bool}

theorem of_take (itemwise : Itemwise layout s next shared agrees) {expected : Option ι}
    {take : Query ω (Option (ι × σ))} (way : Takes s expected take) {taken : ι} {rest : σ}
    (success : (take shared).1 = some (taken, rest)) :
    rest = next ∧ (layout.unread s shared)[0]? = some taken := by
  obtain ⟨condition, -, answer⟩ := itemwise.take way
  rw [answer, Option.map_eq_some_iff] at success
  obtain ⟨item, found, equal⟩ := success
  cases equal
  exact ⟨rfl, (Option.filter_eq_some_iff.mp found).1⟩

theorem moves (itemwise : Itemwise layout s next shared agrees) {expected : Option ι}
    {take : Query ω (Option (ι × σ))} (way : Takes s expected take) {taken : ι} {rest : σ}
    (success : (take shared).1 = some (taken, rest)) :
    Moves layout s shared taken rest (take shared).2 := by
  obtain ⟨rfl, first⟩ := itemwise.of_take way success
  obtain ⟨whole, unread⟩ := itemwise.keeps (.takes way) rest
  constructor
  · rw [whole, itemwise.whole]
  · rw [unread, itemwise.unread, itemwise.spell]
    exact Supply.eq_cons first
  · rw [itemwise.size, itemwise.position]

theorem contract (itemwise : Itemwise layout s next shared agrees) :
    Contract layout s shared where
  atEnd := by rw [itemwise.atEnd, Option.isNone_iff_eq_none, Supply.eq_nil_iff]
  peek_none := by rw [itemwise.peek, Supply.eq_nil_iff]
  peek_some {item} shown := by
    rw [itemwise.peek] at shown
    exact ⟨item, _, itemwise.spell item, Supply.eq_cons shown⟩
  takes way success := itemwise.moves way success
  strict way _ success := by
    have position := (itemwise.moves way success).position
    rw [itemwise.size] at position
    omega
  empty {item} blank := by
    rw [itemwise.spell] at blank
    cases blank
  ended way _ ended := by
    obtain ⟨condition, -, answer⟩ := itemwise.take way
    rw [itemwise.atEnd, Option.isNone_iff_eq_none] at ended
    rw [answer, ended]
    rfl
  again {item} shown := by
    obtain ⟨condition, same, answer⟩ := itemwise.take (.item item)
    obtain rfl := same item rfl
    rw [itemwise.peek] at shown
    rw [answer, shown, itemwise.itself, Option.filter_some]
    cases agrees item item <;> simp
  keeps asks := itemwise.keeps asks s
  steady := itemwise.steady

end Itemwise

end Inspectable

namespace TokenCursor

/-- Tokens are read one by one, whether pulled or not. -/
def layout : Layout TokenCursor String TokenBuffer String (Supply String × Bool) where
  whole s buffer := (buffer.contents, s.caseInsensitive)
  unread s buffer := buffer.contents.drop s.index
  spell token := [token]
  size _ := 1
  agreesWithItself _ _ := True

open Inspectable

theorem of_takes {s : TokenCursor} {expected : Option String}
    {take : Query TokenBuffer (Option (String × TokenCursor))} (way : Takes s expected take) :
    ∃ condition, (∀ item ∈ expected, condition = (s.agrees · item)) ∧
      take = s.takeIf? condition := by
  cases way with
  | item expected =>
      refine ⟨(s.agrees · expected), ?_, rfl⟩
      intro item same
      rw [Option.mem_some.mp same]
  | symbol judged accept =>
      cases judged
      exact ⟨isSymbol accept, nofun, rfl⟩

/-- Every query pulls the current token and does nothing else to the buffer. -/
theorem pull_of_asks {s : TokenCursor} {query : Query TokenBuffer α} (asks : Asks s query)
    (buffer : TokenBuffer) : (query buffer).2 = buffer.pull s.index := by
  cases asks with
  | takes way =>
      obtain ⟨condition, -, rfl⟩ := of_takes way
      rw [takeIf?_eq]
  | atEnd => rw [atEnd_eq]
  | peek => rw [peek?_eq]
  | describe => simp only [Inspectable.describe, describe, current?, TokenBuffer.get?_eq]

/-- Every query is answered from the contents of the buffer. -/
theorem answer_of_asks {s : TokenCursor} {query : Query TokenBuffer α} (asks : Asks s query)
    {buffer other : TokenBuffer} (same : other.contents = buffer.contents) :
    (query other).1 = (query buffer).1 := by
  cases asks with
  | takes way =>
      obtain ⟨condition, -, rfl⟩ := of_takes way
      rw [takeIf?_eq, takeIf?_eq, same]
  | atEnd => rw [atEnd_eq, atEnd_eq, same]
  | peek => rw [peek?_eq, peek?_eq, same]
  | describe => simp only [Inspectable.describe, describe, current?, TokenBuffer.get?_eq, same]

theorem agrees_self (s : TokenCursor) (token : String) : s.agrees token token = true := by
  unfold agrees
  split
  · exact Unicode.foldEq_refl _
  · exact beq_self_eq_true token

theorem itemwise (s : TokenCursor) (buffer : TokenBuffer) :
    Itemwise layout s s.advance buffer fun expected token => s.agrees token expected where
  spell _ := rfl
  size _ := rfl
  itself token := ⟨fun _ => s.agrees_self token, fun _ => trivial⟩
  atEnd := by
    rw [atEnd_eq]
    rfl
  peek := by
    rw [peek?_eq]
    rfl
  take way := by
    obtain ⟨condition, same, rfl⟩ := of_takes way
    refine ⟨condition, same, ?_⟩
    rw [takeIf?_eq]
    rfl
  whole := rfl
  unread := (buffer.contents.drop_drop s.index 1).symm
  position := rfl
  keeps {t α asked} asks r := by
    have same : (asked buffer).2.contents = buffer.contents := by
      rw [pull_of_asks asks, TokenBuffer.contents_pull]
    simp only [layout, same, and_self]
  steady asks asked := by
    apply answer_of_asks asks
    rw [pull_of_asks asked, TokenBuffer.contents_pull]

end TokenCursor

namespace SliceCursor

/-- Items are read one by one; whether one agrees with itself is up to the comparison. -/
def layout : Layout (SliceCursor ι) ι Unit ι (Array ι × (ι → ι → Bool)) where
  whole s _ := (s.items, s.agrees)
  unread s _ := .ofList s.rest
  spell item := [item]
  size _ := 1
  agreesWithItself s item := s.agrees item item = true

open Inspectable

theorem getElem?_rest_zero (s : SliceCursor ι) : s.rest[0]? = s.items[s.index]? := by
  rw [rest, List.getElem?_drop, Array.getElem?_toList, Nat.add_zero]

theorem itemwise [Item ι] (s : SliceCursor ι) :
    Itemwise layout s { s with index := s.index + 1 } () s.agrees where
  spell _ := rfl
  size _ := rfl
  itself _ := Iff.rfl
  atEnd := by
    change decide (s.items.size ≤ s.index) = s.rest[0]?.isNone
    rw [getElem?_rest_zero, Bool.eq_iff_iff, decide_eq_true_iff, Option.isNone_iff_eq_none,
      Array.getElem?_eq_none_iff]
  peek := s.getElem?_rest_zero.symm
  take way := by
    cases way with
    | item expected =>
        refine ⟨s.agrees expected, ?_, ?_⟩
        · intro item same
          rw [Option.mem_some.mp same]
        · exact (s.take?_eq expected).trans (by rw [← getElem?_rest_zero]; rfl)
    | symbol judged => cases judged
  whole := rfl
  unread := by
    rw [layout, Supply.drop_ofList]
    exact congrArg Supply.ofList List.drop_drop.symm
  position := rfl
  keeps _ _ := ⟨rfl, rfl⟩
  steady _ _ := rfl

end SliceCursor

namespace TextCursor

/-- A text is read character by character, and its position counts bytes. -/
def layout : Layout TextCursor String Unit Char (String × TextOptions) where
  whole s _ := (s.input, s.options)
  unread s _ := .ofList s.unread
  spell text := text.toList
  size text := text.utf8ByteSize
  agreesWithItself _ _ := True

open Inspectable

theorem moves_pass (s : TextCursor) (count : Nat) :
    Moves layout s () (s.pass count).1 (s.pass count).2 () where
  whole := rfl
  unread := by
    have passed := congrArg String.toList (s.pass_rest count)
    rw [String.toList_append] at passed
    exact (congrArg Supply.ofList passed.symm).trans (Supply.ofList_append _ _)
  position := s.pass_moved count

/-- Whatever is taken is a number of characters. -/
theorem exists_pass {s : TextCursor} {expected : Option String}
    {take : Query Unit (Option (String × TextCursor))} (way : Takes s expected take)
    {taken : String × TextCursor} (success : (take ()).1 = some taken) :
    ∃ count, taken = s.pass count := by
  cases way with
  | item expected => exact ⟨_, of_take? success⟩
  | symbol judged accept =>
      cases judged
      exact ⟨1, of_takeSymbol? success⟩

theorem moves_of_takes {s rest : TextCursor} {expected : Option String}
    {take : Query Unit (Option (String × TextCursor))} (way : Takes s expected take)
    {taken : String} (success : (take ()).1 = some (taken, rest)) :
    Moves layout s () taken rest () := by
  obtain ⟨count, equal⟩ := exists_pass way success
  have moves := s.moves_pass count
  rwa [← equal] at moves

theorem strict_of_takes {s rest : TextCursor} {expected : Option String}
    {take : Query Unit (Option (String × TextCursor))} (way : Takes s expected take)
    (filled : ∀ item ∈ expected, layout.spell item ≠ []) {taken : String}
    (success : (take ()).1 = some (taken, rest)) :
    Cursor.position s < Cursor.position rest := by
  cases way with
  | item expected =>
      apply (consumes.take s expected () (taken, rest) success).lt
      have named : expected.toList ≠ [] := filled expected rfl
      simpa using named
  | symbol judged accept =>
      cases judged
      exact (symbols_consume s accept () (taken, rest) success).lt rfl

theorem takeSymbol?_of_unread {s : TextCursor} {c : Char} {later : List Char}
    (unread : s.unread = c :: later) (accept : Char → Bool) :
    s.takeSymbol? accept = if accept c then some (s.pass 1) else none := by
  rw [takeSymbol?_eq, unread]
  rfl

theorem agrees_self (options : TextOptions) (c : Char) : agrees options c c = true := by
  unfold agrees
  split
  · exact Unicode.foldEq_refl [c]
  · exact beq_self_eq_true c

/-- The next character can be taken, whether case counts or not. -/
theorem take?_of_unread {s : TextCursor} {c : Char} {later : List Char}
    (unread : s.unread = c :: later) : s.take? (String.singleton c) = some (s.pass 1) := by
  rw [take?_singleton, takeSymbol?_of_unread unread, if_pos (agrees_self s.options c)]

theorem pass_of_unread {s : TextCursor} {c : Char} {later : List Char}
    (unread : s.unread = c :: later) : (s.pass 1).1 = String.singleton c := by
  simp [unread]

/-- The empty text is found everywhere, and taking it changes nothing. -/
theorem take?_empty (s : TextCursor) : s.take? "" = some ("", s) := by
  rw [take?_eq, String.toList_empty, if_pos s.startsWith_nil, List.length_nil, pass_zero]

theorem exists_unread_of_peek? {s : TextCursor} {item : String} (shown : s.peek? = some item) :
    ∃ c later, s.unread = c :: later ∧ item = String.singleton c := by
  rw [peek?_eq] at shown
  obtain ⟨c, first, rfl⟩ := Option.map_eq_some_iff.mp shown
  obtain ⟨later, unread⟩ := List.head?_eq_some_iff.mp first
  exact ⟨c, later, unread, rfl⟩

/-- A symbol can be taken if the next character is accepted. -/
theorem takeSymbol?_isSome_iff {s : TextCursor} {accept : Char → Bool} :
    (s.takeSymbol? accept).isSome = true ↔
      ∃ c, s.peek? = some (String.singleton c) ∧ accept c = true := by
  constructor
  · intro success
    cases unread : s.unread with
    | nil => simp [takeSymbol?_eq, unread] at success
    | cons c later =>
        refine ⟨c, by rw [peek?_eq, unread]; rfl, ?_⟩
        by_contra refused
        simp [takeSymbol?_of_unread unread, refused] at success
  · rintro ⟨c, shown, accepted⟩
    obtain ⟨d, later, unread, equal⟩ := exists_unread_of_peek? shown
    obtain rfl := String.singleton_inj.mp equal
    rw [takeSymbol?_of_unread unread, if_pos accepted]
    rfl

theorem takeSymbol?_eq_take? {s : TextCursor} {accept : Char → Bool} {c : Char}
    (shown : s.peek? = some (String.singleton c)) (accepted : accept c = true) :
    s.takeSymbol? accept = s.take? (String.singleton c) := by
  obtain ⟨d, later, unread, equal⟩ := exists_unread_of_peek? shown
  obtain rfl := String.singleton_inj.mp equal
  rw [takeSymbol?_of_unread unread, take?_of_unread unread, if_pos accepted]

theorem contract (s : TextCursor) : Contract layout s () where
  atEnd := atEnd_iff.trans Supply.ofList_eq_nil_iff.symm
  peek_none := by
    change s.peek? = none ↔ Supply.ofList s.unread = .nil
    rw [peek?_eq, Option.map_eq_none_iff, List.head?_eq_none_iff, Supply.ofList_eq_nil_iff]
  peek_some shown := by
    obtain ⟨c, later, unread, rfl⟩ := exists_unread_of_peek? shown
    refine ⟨c, .ofList later, String.toList_singleton c, ?_⟩
    exact (congrArg Supply.ofList unread).trans (Supply.ofList_append [c] later)
  takes way success := moves_of_takes way success
  strict way filled success := strict_of_takes way filled success
  empty blank := by
    obtain rfl := String.toList_eq_nil_iff.mp blank
    exact s.take?_empty
  ended way filled ended := by
    by_contra found
    obtain ⟨⟨taken, rest⟩, success⟩ := Option.ne_none_iff_exists'.mp found
    have sized : layout.spell taken = [] → layout.size taken = 0 := by
      intro blank
      rw [String.toList_eq_nil_iff.mp blank]
      rfl
    have unread := (moves_of_takes way success).unread_ne_nil sized
      (strict_of_takes way filled success)
    exact unread (Supply.ofList_eq_nil_iff.mpr (atEnd_iff.mp ended))
  again shown := by
    obtain ⟨c, later, unread, rfl⟩ := exists_unread_of_peek? shown
    change ((s.take? _).isSome = true ↔ True) ∧ ∀ taken ∈ s.take? _, taken.1 = _
    rw [take?_of_unread unread]
    constructor
    · simp
    · intro taken success
      cases success
      exact pass_of_unread unread
  keeps _ := ⟨rfl, rfl⟩
  steady _ _ := rfl

/-- The contract at a place in a text, and what holds of texts besides. -/
structure KeepsPlace (input : String) (options : TextOptions) (count : Nat) : Prop where
  contract : Contract layout (after input options count) ()
  /-- What is unread is the text from the position on, which is a boundary in it. -/
  split : ∃ read later, layout.unread (after input options count) () = .ofList later ∧
    read ++ String.ofList later = input ∧
      read.utf8ByteSize = Cursor.position (after input options count)
  /-- Whatever is taken, the next place is one in the same text. -/
  onward : ∀ {expected take taken rest}, Takes (after input options count) expected take →
    (take ()).1 = some (taken, rest) → ∃ further, rest = after input options (count + further)
  symbol : ∀ accept,
    (SymbolCursor.takeSymbol? (after input options count) accept ()).1.isSome = true ↔
      ∃ c, (Cursor.peek? (after input options count) ()).1 = some (String.singleton c) ∧
        accept c = true
  /-- A symbol is taken as the item that it is. -/
  same : ∀ {accept c}, (Cursor.peek? (after input options count) ()).1 = some (String.singleton c) →
    accept c = true → (SymbolCursor.takeSymbol? (after input options count) accept ()).1 =
      (Cursor.take? (after input options count) (String.singleton c) ()).1

theorem keepsPlace (input : String) (options : TextOptions) (count : Nat) :
    KeepsPlace input options count where
  contract := contract _
  split := by
    obtain ⟨read, split, bytes⟩ := (after input options count).exists_append_rest
    refine ⟨read, _, rfl, ?_, bytes⟩
    exact (congrArg (read ++ ·) (ofList_unread _)).trans split
  onward way success := by
    obtain ⟨further, equal⟩ := exists_pass way success
    rw [pass_after] at equal
    exact ⟨further, congrArg Prod.snd equal⟩
  symbol _ := takeSymbol?_isSome_iff
  same := takeSymbol?_eq_take?

end TextCursor

/-- Texts, tokens and slices are read under one contract, at every place, with or without case,
whatever has been pulled, and with any comparison. -/
theorem cursors_keep_contract :
    (∀ (input : String) (options : TextOptions) (count : Nat),
      TextCursor.KeepsPlace input options count) ∧
      (∀ (s : TokenCursor) (buffer : TokenBuffer),
        Inspectable.Contract TokenCursor.layout s buffer) ∧
      ∀ (ι : Type) [Item ι] (s : SliceCursor ι), Inspectable.Contract SliceCursor.layout s () := by
  refine ⟨?_, ?_, ?_⟩
  · intro input options count
    exact TextCursor.keepsPlace input options count
  · intro s buffer
    exact (s.itemwise buffer).contract
  · intro ι _ s
    exact s.itemwise.contract

/-- An item that does not agree with itself is seen but not taken. -/
example : let s : SliceCursor Int := .start #[1] Comparison.less
    (Cursor.peek? s ()).1 = some 1 ∧ (Cursor.take? s 1 ()).1 = none ∧
      ((Cursor.take? s 0 ()).1.map Prod.fst) = some 1 :=
  ⟨rfl, rfl, rfl⟩

end Descent
