import Descent.Proofs.Cursor.Buffer
import Descent.Proofs.Cursor.Text

/-!
# Taking text in either case

A cursor that ignores case takes as many characters as are expected, provided that they are
the expected ones after lower-casing, and takes them as the input spells them.  One character
may become several when it is lower-cased, and may take more bytes than its counterpart; so
characters are counted, and the cursor moves by the bytes of what is taken.
-/

namespace Descent

/-- Texts that do not differ once each of their characters has been lower-cased. -/
def Unicode.SameFolded (first second : String) : Prop :=
  first.toList.flatMap lower = second.toList.flatMap lower

theorem Unicode.foldEq_iff {first second : String} :
    foldEq first.toList second.toList = true ↔ SameFolded first second := by
  simp only [foldEq, fold, SameFolded, beq_iff_eq]

namespace TextCursor

variable {s rest : TextCursor} {expected taken : String}

/-- The characters that are compared with an expected text. -/
def candidate (s : TextCursor) (expected : String) : String :=
  String.ofList (s.unread.take expected.length)

theorem startsWith_iff_of_ignoring (ignoring : s.options.caseInsensitive = true) :
    s.startsWith expected.toList = true ↔
      expected.length ≤ s.rest.length ∧ Unicode.SameFolded (s.candidate expected) expected := by
  have enough : (s.unread.take expected.length).length = expected.length ↔
      expected.length ≤ s.rest.length := by
    rw [List.length_take, unread, String.length_toList]
    omega
  have same : Unicode.foldEq (s.unread.take expected.length) expected.toList = true ↔
      Unicode.SameFolded (s.candidate expected) expected := by
    rw [← Unicode.foldEq_iff, candidate, String.toList_ofList]
  simp only [startsWith, ignoring, ↓reduceIte, String.length_toList, Bool.and_eq_true, beq_iff_eq,
    enough, same]

/-- The bytes that match are found behind as many characters as are expected. -/
theorem matchLength?_iff_of_ignoring (ignoring : s.options.caseInsensitive = true)
    (filled : expected ≠ "") {length : Nat} :
    s.matchLength? expected = some length ↔
      expected.length ≤ s.rest.length ∧ Unicode.SameFolded (s.candidate expected) expected ∧
        length = (s.candidate expected).utf8ByteSize := by
  rw [matchLength?_eq filled, Option.ite_none_right_eq_some, Option.some.injEq,
    startsWith_iff_of_ignoring ignoring, and_assoc, candidate, ← Text.byteCount_eq_utf8ByteSize,
    String.length_toList, eq_comm (a := length)]

theorem pass_moved (s : TextCursor) (count : Nat) :
    (s.pass count).2.offset = s.offset + (s.pass count).1.utf8ByteSize := by
  rw [pass_fst, pass_offset, Text.byteCount_eq_utf8ByteSize]

/-- A text stands at a cursor for an expected one, with the given cursor after it. -/
structure StandsFor (s : TextCursor) (expected taken : String) (rest : TextCursor) : Prop where
  length : taken.length = expected.length
  folded : Unicode.SameFolded taken expected
  spelled : taken ++ rest.rest = s.rest
  offset : rest.offset = s.offset + taken.utf8ByteSize
  input : rest.input = s.input
  options : rest.options = s.options

namespace StandsFor

theorem unread (stands : s.StandsFor expected taken rest) :
    s.unread = taken.toList ++ rest.unread := by
  rw [TextCursor.unread, ← stands.spelled, String.toList_append]
  rfl

theorem candidate_eq (stands : s.StandsFor expected taken rest) :
    s.candidate expected = taken := by
  rw [candidate, stands.unread, ← stands.length, ← String.length_toList, List.take_left,
    String.ofList_toList]

theorem pass_eq (stands : s.StandsFor expected taken rest) :
    s.pass expected.length = (taken, rest) := by
  have item : (s.pass expected.length).1 = taken := by
    rw [pass_fst]
    exact stands.candidate_eq
  apply Prod.ext
  · exact item
  · apply TextCursor.ext
    · exact stands.input.symm
    · rw [pass_moved, item, stands.offset]
    · exact stands.options.symm

end StandsFor

theorem take?_eq_some_iff :
    s.take? expected = some (taken, rest) ↔
      s.startsWith expected.toList = true ∧ s.pass expected.length = (taken, rest) := by
  rw [take?_eq, Option.ite_none_right_eq_some, Option.some.injEq, String.length_toList]

theorem take?_iff_of_ignoring (ignoring : s.options.caseInsensitive = true) :
    s.take? expected = some (taken, rest) ↔ s.StandsFor expected taken rest := by
  rw [take?_eq_some_iff, startsWith_iff_of_ignoring ignoring]
  constructor
  · rintro ⟨⟨enough, folded⟩, passed⟩
    have item : (s.pass expected.length).1 = s.candidate expected := s.pass_fst _
    have length : (s.candidate expected).length = expected.length := by
      rw [← String.length_toList] at enough
      rw [candidate, String.length_ofList]
      exact List.length_take_of_le enough
    rw [← item] at length folded
    cases passed
    exact ⟨length, folded, s.pass_rest _, s.pass_moved _, rfl, rfl⟩
  · intro stands
    refine ⟨⟨?_, ?_⟩, stands.pass_eq⟩
    · rw [← stands.spelled, String.length_append, stands.length]
      exact Nat.le_add_right _ _
    · rw [stands.candidate_eq]
      exact stands.folded

/-- What is taken by exact comparison stands for itself in either case. -/
theorem startsWith_of_exact {options : TextOptions} (exact : options.caseInsensitive = false)
    (ignoring : s.options.caseInsensitive = true)
    (starts : TextCursor.startsWith { s with options := options } expected.toList = true) :
    s.startsWith expected.toList = true := by
  simp only [startsWith, exact, Bool.false_eq_true, ↓reduceIte, List.isPrefixOf_iff_prefix]
    at starts
  obtain ⟨later, spelled⟩ := starts
  have unread : s.unread = expected.toList ++ later := spelled.symm
  simp only [startsWith, ignoring, ↓reduceIte, unread, List.take_left, beq_self_eq_true,
    Unicode.foldEq_refl, Bool.and_self]

theorem take?_of_exact {options : TextOptions} (exact : options.caseInsensitive = false)
    (ignoring : s.options.caseInsensitive = true)
    (success : TextCursor.take? { s with options := options } expected = some (taken, rest)) :
    s.take? expected = some (taken, { rest with options := s.options }) := by
  obtain ⟨starts, passed⟩ := take?_eq_some_iff.mp success
  refine take?_eq_some_iff.mpr ⟨startsWith_of_exact exact ignoring starts, ?_⟩
  cases passed
  rfl

/-- A text of as many characters as are expected is taken as a whole, or not at all. -/
theorem takes_whole_iff {token : String} (length : token.length = expected.length) :
    (∃ taken rest, (start token ⟨true⟩).take? expected = some (taken, rest) ∧
        (Cursor.atEnd rest ()).1 = true) ↔
      Unicode.SameFolded token expected := by
  constructor
  · rintro ⟨taken, rest, success, ended⟩
    have stands := (take?_iff_of_ignoring rfl).mp success
    have unread := stands.unread
    rw [atEnd_iff.mp ended, List.append_nil, start_unread] at unread
    obtain rfl : token = taken := String.toList_inj.mp unread
    exact stands.folded
  · intro folded
    have ended : (finish token ⟨true⟩).unread = [] := finish_unread token ⟨true⟩
    have stands : (start token ⟨true⟩).StandsFor expected token (finish token ⟨true⟩) := by
      refine ⟨length, folded, ?_, (Nat.zero_add _).symm, rfl, rfl⟩
      rw [← ofList_unread, ended, ← ofList_unread, start_unread, String.ofList_toList,
        String.ofList_nil, String.append_empty]
    exact ⟨token, _, (take?_iff_of_ignoring rfl).mpr stands, atEnd_iff.mpr ended⟩

end TextCursor

theorem TokenCursor.agrees_iff_of_ignoring {s : TokenCursor}
    (ignoring : s.caseInsensitive = true) {token expected : String} :
    s.agrees token expected = true ↔ Unicode.SameFolded token expected := by
  rw [agrees, if_pos ignoring, beq_iff_eq]
  rfl

theorem TokenCursor.take?_isSome_iff {s : TokenCursor} {buffer : TokenBuffer}
    {token expected : String} (found : buffer.contents[s.index]? = some token) :
    (Cursor.take? s expected buffer).1.isSome = true ↔ s.agrees token expected = true := by
  change (s.takeIf? (s.agrees · expected) buffer).1.isSome = true ↔ _
  rw [takeIf?_eq, found]
  simp only [Option.filter]
  by_cases agreed : s.agrees token expected = true
  · simp [agreed]
  · simp [agreed]

/-- What a text cursor takes that ignores case. -/
structure TextCursor.IgnoresCase (s : TextCursor) (expected : String) : Prop where
  succeeds : (s.take? expected).isSome = true ↔
    expected.length ≤ s.rest.length ∧ Unicode.SameFolded (s.candidate expected) expected
  /-- As many bytes match as the characters in front of the cursor take. -/
  matched : expected ≠ "" → ∀ {length}, s.matchLength? expected = some length ↔
    expected.length ≤ s.rest.length ∧ Unicode.SameFolded (s.candidate expected) expected ∧
      length = (s.candidate expected).utf8ByteSize
  takes : ∀ {taken rest}, s.take? expected = some (taken, rest) ↔ s.StandsFor expected taken rest
  candidate : ∀ {taken rest}, s.StandsFor expected taken rest → taken = s.candidate expected
  /-- What is taken by exact comparison is taken in either case too. -/
  exact : ∀ {options : TextOptions} {taken rest}, options.caseInsensitive = false →
    TextCursor.take? { s with options := options } expected = some (taken, rest) →
      s.take? expected = some (taken, { rest with options := s.options })

theorem TextCursor.ignoresCase {s : TextCursor} (ignoring : s.options.caseInsensitive = true)
    (expected : String) : s.IgnoresCase expected where
  succeeds := by
    rw [take?_eq, ← startsWith_iff_of_ignoring ignoring]
    split <;> simp [*]
  matched filled := matchLength?_iff_of_ignoring ignoring filled
  takes := take?_iff_of_ignoring ignoring
  candidate stands := stands.candidate_eq.symm
  exact compared success := take?_of_exact compared ignoring success

/-- A cursor over a text that ignores case takes the characters that are expected, as the input
spells them; and of tokens with as many characters as are expected, it takes those as a whole
that a cursor over tokens takes. -/
theorem takes_in_either_case :
    (∀ (s : TextCursor) (expected : String), s.options.caseInsensitive = true →
      s.IgnoresCase expected) ∧
    ∀ (s : TokenCursor) (buffer : TokenBuffer) (token expected : String),
      s.caseInsensitive = true → buffer.contents[s.index]? = some token →
        token.length = expected.length →
          ((Cursor.take? s expected buffer).1.isSome = true ↔
            ∃ taken rest, (TextCursor.start token ⟨true⟩).take? expected = some (taken, rest) ∧
              (Cursor.atEnd rest ()).1 = true) := by
  refine ⟨fun s expected ignoring => TextCursor.ignoresCase ignoring expected, ?_⟩
  intro s buffer token expected ignoring found length
  rw [TextCursor.takes_whole_iff length, TokenCursor.take?_isSome_iff found]
  exact TokenCursor.agrees_iff_of_ignoring ignoring

/-- The Kelvin sign takes three bytes, and the letter that it is lower-cased to takes one.  The
dotted capital becomes two characters, and does not stand for these two: one character is not
as many as are expected. -/
theorem takes_in_either_case_kelvin :
    let s : TokenCursor := ⟨0, true⟩
    let kelvin := TokenBuffer.start [some "\u0130\u212A"]
    let plain := TokenBuffer.start [some "i\u212A"]
    let within : TextCursor := ⟨"\u0130\u212A!", 2, ⟨true⟩, by decide⟩
    (s.caseInsensitive = true ∧ kelvin.contents[s.index]? = some "\u0130\u212A" ∧
      "\u0130\u212A".length = "\u0130k".length ∧
      (Cursor.take? s "\u0130k" kelvin).1.isSome = true ∧
      ∃ taken rest, (TextCursor.start "\u0130\u212A" ⟨true⟩).take? "\u0130k" =
          some (taken, rest) ∧ (Cursor.atEnd rest ()).1 = true) ∧
    (plain.contents[s.index]? = some "i\u212A" ∧ "i\u212A".length = "\u0130k".length ∧
      (Cursor.take? s "\u0130k" plain).1.isSome = false ∧
      ¬∃ taken rest, (TextCursor.start "i\u212A" ⟨true⟩).take? "\u0130k" = some (taken, rest) ∧
        (Cursor.atEnd rest ()).1 = true) ∧
    (within.options.caseInsensitive = true ∧ within.IgnoresCase "k" ∧
      within.take? "k" = some ("\u212A", ⟨"\u0130\u212A!", 5, ⟨true⟩, by decide⟩)) ∧
    (TextCursor.start "\u0130\u212A!" ⟨true⟩).take? "\u0130k" =
      some ("\u0130\u212A", ⟨"\u0130\u212A!", 5, ⟨true⟩, by decide⟩) ∧
    (TextCursor.start "\u0130" ⟨true⟩).take? "i\u0307" = none := by
  intro s kelvin plain within
  have taken : (Cursor.take? s "\u0130k" kelvin).1.isSome = true := by decide +kernel
  have refused : (Cursor.take? s "\u0130k" plain).1.isSome = false := by decide +kernel
  refine ⟨⟨rfl, rfl, rfl, taken, ?_⟩, ⟨rfl, rfl, refused, ?_⟩,
    ⟨rfl, takes_in_either_case.1 within "k" rfl, by decide +kernel⟩, by decide +kernel,
    by decide +kernel⟩
  · exact (takes_in_either_case.2 s kelvin "\u0130\u212A" "\u0130k" rfl rfl rfl).mp taken
  · intro whole
    have found := (takes_in_either_case.2 s plain "i\u212A" "\u0130k" rfl rfl rfl).mpr whole
    rw [refused] at found
    cases found

end Descent
