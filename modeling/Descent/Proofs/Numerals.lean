import Descent.Proofs.TextReading

/-!
# The language of numbers

A numeral is an optional sign, digits, and optionally a point with further digits, which
need not be there.  The parser of numbers accepts a text if and only if it begins with a
numeral, reads the longest one, and hands exactly what it has read to the conversion, which
never refuses it.
-/

namespace Descent

open Text (isDigit digitsValue)
open TextCursor (onText)

inductive Sign where
  | plus
  | minus
  deriving DecidableEq

namespace Sign

def symbol : Sign → Char
  | plus => '+'
  | minus => '-'

/-- The characters of a sign, if there is one. -/
def chars (sign : Option Sign) : List Char := (sign.map symbol).toList

/-- No sign has been overlooked in front of what follows. -/
def Ends (sign : Option Sign) (rest : List Char) : Prop :=
  sign = none → ∀ other : Sign, rest.head? ≠ some other.symbol

theorem exists_ends (cs : List Char) : ∃ sign rest, cs = chars sign ++ rest ∧ Ends sign rest := by
  by_cases signed : ∃ sign : Sign, cs.head? = some sign.symbol
  · obtain ⟨sign, first⟩ := signed
    obtain ⟨rest, rfl⟩ := List.head?_eq_some_iff.mp first
    exact ⟨some sign, rest, rfl, nofun⟩
  · exact ⟨none, cs, rfl, fun _ sign first => signed ⟨sign, first⟩⟩

theorem ends_of_digit {digit : Char} (digits : isDigit digit = true) (sign : Option Sign)
    (rest : List Char) : Ends sign (digit :: rest) := by
  intro _ other first
  have noDigit : isDigit other.symbol = false := by cases other <;> decide
  rw [← Option.some.inj first, digits] at noDigit
  cases noDigit

end Sign

/-- No digit comes next. -/
def NoDigit (rest : List Char) : Prop := ∀ c ∈ rest.head?, isDigit c = false

theorem noDigit_cons {c : Char} {rest : List Char} :
    NoDigit (c :: rest) ↔ isDigit c = false := by
  constructor
  · intro noDigit
    exact noDigit c rfl
  · rintro other _ ⟨⟩
    exact other

instance : DecidablePred NoDigit
  | [] => isTrue nofun
  | c :: _ => decidable_of_iff (isDigit c = false) noDigit_cons.symm

theorem noDigit_dropWhile (cs : List Char) : NoDigit (cs.dropWhile isDigit) := by
  intro c first
  have stopped := List.head?_dropWhile_not isDigit cs
  rw [first] at stopped
  exact stopped

/-- A number as it is written. -/
structure Numeral where
  sign : Option Sign
  whole : List Char
  /-- The digits after the point, if there is a point. -/
  fraction : Option (List Char)
  whole_ne_nil : whole ≠ []
  whole_digits : ∀ c ∈ whole, isDigit c = true
  fraction_digits : ∀ digits ∈ fraction, ∀ c ∈ digits, isDigit c = true

/-- A numeral begins here: an optional sign, and a digit. -/
def BeginsNumeral (cs : List Char) : Prop :=
  ∃ sign digit rest, cs = Sign.chars sign ++ digit :: rest ∧ isDigit digit = true

namespace Numeral

/-- The characters after the digits in front of the point. -/
def pointed : Option (List Char) → List Char
  | none => []
  | some digits => '.' :: digits

def text (n : Numeral) : List Char := Sign.chars n.sign ++ (n.whole ++ pointed n.fraction)

/-- The decimal number that a numeral stands for. -/
def value (n : Numeral) : Text.Decimal :=
  ⟨n.sign = some .minus, digitsValue (n.whole ++ n.fraction.getD []),
    (n.fraction.getD []).length⟩

/-- What follows is not part of the numeral. -/
def Ends (n : Numeral) (rest : List Char) : Prop :=
  NoDigit rest ∧ (n.fraction = none → rest.head? ≠ some '.')

theorem ends_nil (n : Numeral) : n.Ends [] := by
  constructor
  · rintro _ ⟨⟩
  · rintro _ ⟨⟩

theorem pointed_eq (fraction : Option (List Char)) :
    pointed fraction = (fraction.map fun _ => '.').toList ++ fraction.getD [] := by
  cases fraction <;> rfl

theorem fraction_getD_digits (n : Numeral) : ∀ c ∈ n.fraction.getD [], isDigit c = true := by
  cases present : n.fraction with
  | none => exact nofun
  | some digits => exact n.fraction_digits digits present

theorem sign_ends (n : Numeral) (later : List Char) (sign : Option Sign) :
    Sign.Ends sign (n.whole ++ later) := by
  obtain ⟨digit, digits, whole⟩ := List.exists_cons_of_ne_nil n.whole_ne_nil
  rw [whole]
  exact Sign.ends_of_digit (n.whole_digits digit (whole ▸ List.mem_cons_self)) _ _

theorem takeWhile_append_pointed {whole : List Char} (digits : ∀ c ∈ whole, isDigit c = true)
    (fraction : Option (List Char)) :
    (whole ++ pointed fraction).takeWhile isDigit = whole ∧
      (whole ++ pointed fraction).dropWhile isDigit = pointed fraction := by
  rw [List.takeWhile_append_of_pos digits, List.dropWhile_append_of_pos digits]
  have noDigit : isDigit '.' = false := by decide
  cases fraction <;> simp [pointed, noDigit]

theorem readUnsigned?_whole (n : Numeral) (negative : Bool) :
    Text.Decimal.readUnsigned? negative (n.whole ++ pointed n.fraction) =
      some ⟨negative, digitsValue (n.whole ++ n.fraction.getD []),
        (n.fraction.getD []).length⟩ := by
  obtain ⟨taken, dropped⟩ := takeWhile_append_pointed n.whole_digits n.fraction
  have some : n.whole.isEmpty = false := List.isEmpty_eq_false_iff.mpr n.whole_ne_nil
  simp only [Text.Decimal.readUnsigned?, taken, dropped, some, Bool.false_eq_true, ↓reduceIte]
  cases fraction : n.fraction with
  | none => simp [pointed]
  | some digits =>
      have all : digits.all isDigit = true :=
        List.all_eq_true.mpr (n.fraction_digits digits fraction)
      simp [pointed, all]

theorem read?_unsigned {cs : List Char} (unsigned : Sign.Ends none cs) :
    Text.Decimal.read? cs = Text.Decimal.readUnsigned? false cs := by
  unfold Text.Decimal.read?
  split
  · exact absurd rfl (unsigned rfl .plus)
  · exact absurd rfl (unsigned rfl .minus)
  · rfl

/-- The conversion reads every numeral. -/
theorem read?_text (n : Numeral) : Text.Decimal.read? n.text = some n.value := by
  have unsigned := n.readUnsigned?_whole
  rw [text, value]
  cases n.sign with
  | none => exact (read?_unsigned (n.sign_ends _ _)).trans (unsigned false)
  | some sign =>
      cases sign with
      | plus => exact unsigned false
      | minus => exact unsigned true

theorem begins (n : Numeral) (rest : List Char) : BeginsNumeral (n.text ++ rest) := by
  obtain ⟨digit, digits, whole⟩ := List.exists_cons_of_ne_nil n.whole_ne_nil
  refine ⟨n.sign, digit, digits ++ (pointed n.fraction ++ rest), ?_,
    n.whole_digits digit (whole ▸ List.mem_cons_self)⟩
  simp only [text, whole, List.append_assoc, List.cons_append]

/-- Where a numeral begins, a longest one can be read. -/
theorem exists_of_begins {cs : List Char} (begins : BeginsNumeral cs) :
    ∃ (n : Numeral) (rest : List Char), cs = n.text ++ rest ∧ n.Ends rest := by
  obtain ⟨sign, digit, later, rfl, first⟩ := begins
  have digits : ∀ cs : List Char, ∀ c ∈ cs.takeWhile isDigit, isDigit c = true :=
    fun _ => List.all_eq_true.mp List.all_takeWhile
  have whole : ∀ c ∈ digit :: later.takeWhile isDigit, isDigit c = true :=
    List.forall_mem_cons.mpr ⟨first, digits later⟩
  have split : later = later.takeWhile isDigit ++ later.dropWhile isDigit :=
    List.takeWhile_append_dropWhile.symm
  have ends := noDigit_dropWhile later
  by_cases point : (later.dropWhile isDigit).head? = some '.'
  · obtain ⟨further, after⟩ := List.head?_eq_some_iff.mp point
    refine ⟨⟨sign, _, some (further.takeWhile isDigit), List.cons_ne_nil _ _, whole, ?_⟩,
      further.dropWhile isDigit, ?_, noDigit_dropWhile further, nofun⟩
    · rintro _ ⟨⟩
      exact digits further
    · rw [after] at split
      simp only [text, pointed, List.append_assoc, List.cons_append,
        List.takeWhile_append_dropWhile]
      rw [← split]
  · refine ⟨⟨sign, _, none, List.cons_ne_nil _ _, whole, nofun⟩, later.dropWhile isDigit, ?_,
      ends, fun _ => point⟩
    simp only [text, pointed, List.append_nil, List.append_assoc, List.cons_append]
    rw [← split]

/-- Where none begins, there is no digit after the sign. -/
theorem exists_of_not_begins {cs : List Char} (none : ¬BeginsNumeral cs) :
    ∃ sign rest, cs = Sign.chars sign ++ rest ∧ Sign.Ends sign rest ∧ NoDigit rest := by
  obtain ⟨sign, rest, rfl, ends⟩ := Sign.exists_ends cs
  refine ⟨sign, rest, rfl, ends, ?_⟩
  intro c first
  obtain ⟨later, rfl⟩ := List.head?_eq_some_iff.mp first
  exact Bool.eq_false_iff.mpr fun digit => none ⟨sign, c, later, rfl, digit⟩

end Numeral

namespace Parser

variable {context : Context Unit} {rest : List Char}

theorem digit_reads {c : Char} (isDigit : isDigit c = true) (rest : List Char) :
    (digit : Parser TextCursor Unit String).Reads context [c] (String.singleton c) rest := by
  have accepts : SymbolClass.digit.accepts c = true := isDigit
  exact symbol_reads accepts rest

theorem digit_fails (noDigit : NoDigit rest) :
    (digit : Parser TextCursor Unit String).FailsAfter context []
      (if rest = [] then "EOF" else "unexpected symbol") rest := by
  have rejects : ∀ c ∈ rest.head?, SymbolClass.digit.accepts c = false := noDigit
  exact symbol_fails rejects

theorem digits_read {digits : List Char} (all : ∀ c ∈ digits, isDigit c = true)
    (ends : NoDigit rest) :
    (digit : Parser TextCursor Unit String).ReadsRow context rest digits
      (digits.map String.singleton) := by
  induction digits with
  | nil => exact .done (digit_fails ends).misses
  | cons c digits ih =>
      obtain ⟨first, later⟩ := List.forall_mem_cons.mp all
      exact .next (List.cons_ne_nil c []) (digit_reads first _) (ih later)

theorem sign_reads {sign : Option Sign} (ends : Sign.Ends sign rest) :
    (firstOf [exact "+", exact "-"]).optional.Reads context (Sign.chars sign)
      (sign.map fun sign => String.singleton sign.symbol) rest := by
  cases sign with
  | none =>
      apply Misses.optional
      apply Misses.firstOf
      simp only [List.forall_mem_cons, List.not_mem_nil, false_implies, implies_true, and_true]
      have noPlus : (exact (String.singleton '+')).Misses context rest :=
        exact_char_misses (ends rfl .plus)
      have noMinus : (exact (String.singleton '-')).Misses context rest :=
        exact_char_misses (ends rfl .minus)
      exact ⟨noPlus, noMinus⟩
  | some sign =>
      apply Reads.optional
      have reads : (exact (String.singleton sign.symbol)).Reads context [sign.symbol]
          (String.singleton sign.symbol) rest := exact_char_reads sign.symbol rest
      cases sign with
      | plus => exact reads.firstOf (List.cons_ne_nil _ _) [] (List.forall_mem_nil _) [exact "-"]
      | minus =>
          have noPlus : (exact (String.singleton '+')).Misses context ('-' :: rest) :=
            exact_char_misses (by simp)
          exact reads.firstOf (List.cons_ne_nil _ _) [exact "+"]
            (List.forall_mem_singleton.mpr noPlus) []

theorem point_reads {fraction : Option (List Char)}
    (ends : fraction = none → rest.head? ≠ some '.') :
    (exact ".").optional.Reads context (fraction.map fun _ => '.').toList
      (fraction.map fun _ => ".") (fraction.getD [] ++ rest) := by
  cases fraction with
  | none => exact (exact_char_misses (ends rfl)).optional
  | some digits => exact (exact_char_reads '.' _).optional

end Parser

/-- The parts of a numeral as they are read. -/
def Numeral.parts (n : Numeral) : Parser.NumberParts :=
  (((n.sign.map fun sign => String.singleton sign.symbol, n.whole.map String.singleton),
    n.fraction.map fun _ => "."), (n.fraction.getD []).map String.singleton)

namespace Parser

variable {context : Context Unit} {rest : List Char}

/-- What is handed to the conversion is the text of the numeral. -/
theorem numberText_parts (n : Numeral) : numberText n.parts = String.ofList n.text := by
  have singletons : ∀ cs : List Char, String.join (cs.map String.singleton) = String.ofList cs := by
    intro cs
    induction cs with
    | nil => rfl
    | cons c cs ih => simp [String.join_cons, ih]
  simp only [numberText, Numeral.parts, Numeral.text, singletons]
  cases n.sign <;> cases n.fraction <;>
    simp [Sign.chars, Numeral.pointed, String.ofList_append, String.append_assoc]

theorem readNumber_parts (n : Numeral) : readNumber n.parts = .ok n.value.toBits := by
  rw [readNumber, numberText_parts, String.toList_ofList, n.read?_text]

theorem noDigit_pointed {fraction : Option (List Char)} (ends : NoDigit rest) :
    NoDigit (Numeral.pointed fraction ++ rest) := by
  cases fraction with
  | none => exact ends
  | some digits => exact noDigit_cons.mpr (by decide)

theorem numberParts_reads (n : Numeral) (ends : n.Ends rest)
    (short : n.text.length ≤ Limits.unlimited) :
    numberParts.Reads context n.text n.parts rest := by
  obtain ⟨noDigit, noPoint⟩ := ends
  have text : n.text = Sign.chars n.sign ++ n.whole ++ (n.fraction.map fun _ => '.').toList ++
      n.fraction.getD [] := by
    simp only [Numeral.text, Numeral.pointed_eq, List.append_assoc]
  have lengths := congrArg List.length text
  simp only [List.length_append] at lengths
  have sign : (firstOf [exact "+", exact "-"]).optional.Reads context (Sign.chars n.sign)
      (n.sign.map fun sign => String.singleton sign.symbol)
      (n.whole ++ (Numeral.pointed n.fraction ++ rest)) := sign_reads (n.sign_ends _ _)
  have whole : ((digit : Parser TextCursor Unit String).many1 .standard).Reads context n.whole
      (n.whole.map String.singleton) (Numeral.pointed n.fraction ++ rest) := by
    obtain ⟨c, digits, some⟩ := List.exists_cons_of_ne_nil n.whole_ne_nil
    have all := n.whole_digits
    rw [some, List.length_cons] at lengths
    rw [some] at all ⊢
    obtain ⟨first, later⟩ := List.forall_mem_cons.mp all
    have enough : (digits.map String.singleton).length < Limits.unlimited := by
      rw [List.length_map]
      omega
    exact (digits_read later (noDigit_pointed noDigit)).many1 (digit_reads first _) rfl enough
      "ONE OR MANY"
  have fraction : ((digit : Parser TextCursor Unit String).many .standard).Reads context
      (n.fraction.getD []) ((n.fraction.getD []).map String.singleton) rest := by
    have enough : ((n.fraction.getD []).map String.singleton).length ≤ Limits.unlimited := by
      rw [List.length_map]
      omega
    exact (digits_read n.fraction_getD_digits noDigit).many rfl enough "ZERO OR MANY"
  rw [Numeral.pointed_eq, List.append_assoc] at sign whole
  rw [text]
  refine Reads.both (Reads.both (Reads.both ?_ whole) (point_reads noPoint)) fraction
  exact sign

theorem number_reads (n : Numeral) (ends : n.Ends rest)
    (short : n.text.length ≤ Limits.unlimited) :
    number.Reads context n.text n.value.toBits rest := by
  have unread : n.text ++ rest ≠ [] := by simp [Numeral.text, n.whole_ne_nil]
  exact ((numberParts_reads n ends short).tryMap (readNumber_parts n)).labeled unread "NUMBER"

theorem numberParts_fails {sign : Option Sign} (signEnds : Sign.Ends sign rest)
    (noDigit : NoDigit rest) :
    numberParts.FailsAfter context (Sign.chars sign)
      (if rest = [] then "EOF" else "unexpected symbol") rest := by
  have signed : (firstOf [exact "+", exact "-"]).optional.Reads context (Sign.chars sign)
      (sign.map fun sign => String.singleton sign.symbol) ([] ++ rest) := sign_reads signEnds
  have fails := signed.both_fails ((digit_fails noDigit).many1 .standard)
  rw [List.append_nil] at fails
  exact (fails.both _).both _

theorem number_fails {sign : Option Sign} (signEnds : Sign.Ends sign rest)
    (noDigit : NoDigit rest) :
    number.FailsAfter context (Sign.chars sign)
      (if rest = [] then "EOF" else "unexpected symbol") rest := by
  by_cases ended : Sign.chars sign ++ rest = []
  · obtain ⟨noSign, rfl⟩ := List.append_eq_nil_iff.mp ended
    rw [noSign]
    exact guarded_fails_end _
  · exact (numberParts_fails signEnds noDigit).tryMap.labeled ended "NUMBER"

/-- What the parser of numbers does on a text. -/
structure ReadsNumerals (text : String) (context : Context Unit) : Prop where
  accepts : (number.parse (TextCursor.start text .standard) context).value.isSuccess = true ↔
    BeginsNumeral text.toList
  longest : BeginsNumeral text.toList ↔
    ∃ (n : Numeral) (rest : List Char), text.toList = n.text ++ rest ∧ n.Ends rest
  success : ∀ {n : Numeral} {rest : List Char}, text.toList = n.text ++ rest → n.Ends rest →
    (number.parse (TextCursor.start text .standard)).Yields context
      (.success n.value.toBits (TextCursor.after text .standard n.text.length))
  failure : ¬BeginsNumeral text.toList →
    ∃ sign rest, text.toList = Sign.chars sign ++ rest ∧ Sign.Ends sign rest ∧
      ∃ failed, (number.parse (TextCursor.start text .standard)).Yields context
          (.failure failed) ∧
        failed.label = "NUMBER" ∧
        failed.reason = (if rest = [] then "EOF" else "unexpected symbol") ∧
        failed.remaining = TextCursor.after text .standard (Sign.chars sign).length
  /-- The conversion is handed what has been read, and does not refuse it. -/
  converts : ∀ {parts : NumberParts} {last : TextCursor},
    (numberParts.parse (TextCursor.start text .standard) context).value = .success parts last →
      numberText parts ++ last.rest = text ∧ ∃ bits, readNumber parts = .ok bits
  complete : (∃ bits,
      (number.parseComplete (TextCursor.start text .standard) context).value = .ok bits) ↔
    ∃ n : Numeral, text.toList = n.text

section

variable {text : String} {n : Numeral}

theorem Numeral.length_le_unlimited (short : text.utf8ByteSize ≤ Limits.unlimited)
    (split : text.toList = n.text ++ rest) : n.text.length ≤ Limits.unlimited := by
  have within := TextCursor.length_le_unlimited short
  rw [split, List.length_append] at within
  omega

theorem numberParts_yields (short : text.utf8ByteSize ≤ Limits.unlimited)
    (split : text.toList = n.text ++ rest) (ends : n.Ends rest) :
    (numberParts.parse (TextCursor.start text .standard)).Yields context
      (.success n.parts (TextCursor.after text .standard n.text.length)) := by
  rw [TextCursor.start_eq_onText split, TextCursor.after_eq_onText split]
  exact numberParts_reads n ends (Numeral.length_le_unlimited short split) []

theorem number_yields (short : text.utf8ByteSize ≤ Limits.unlimited)
    (split : text.toList = n.text ++ rest) (ends : n.Ends rest) :
    (number.parse (TextCursor.start text .standard)).Yields context
      (.success n.value.toBits (TextCursor.after text .standard n.text.length)) := by
  rw [TextCursor.start_eq_onText split, TextCursor.after_eq_onText split]
  exact number_reads n ends (Numeral.length_le_unlimited short split) []

theorem number_completes (short : text.utf8ByteSize ≤ Limits.unlimited)
    (split : text.toList = n.text ++ rest) (ends : n.Ends rest) :
    (number.parseComplete (TextCursor.start text .standard)).Yields context
      (if rest = [] then .ok n.value.toBits
        else .error (.notConsumed (Text.byteCount n.text))) := by
  have reads : (number.parse (TextCursor.start text .standard)).Yields context
      (.success n.value.toBits (onText n.text rest)) :=
    TextCursor.after_eq_onText split ▸ number_yields short split ends
  have completes := parseComplete_yields reads
  rw [TextCursor.onText_unread] at completes
  exact completes

theorem number_refuses (none : ¬BeginsNumeral text.toList) :
    ∃ sign rest, text.toList = Sign.chars sign ++ rest ∧ Sign.Ends sign rest ∧
      ∃ failed, (number.parse (TextCursor.start text .standard)).Yields context
          (.failure failed) ∧
        failed.label = "NUMBER" ∧
        failed.reason = (if rest = [] then "EOF" else "unexpected symbol") ∧
        failed.remaining = TextCursor.after text .standard (Sign.chars sign).length := by
  have named : "NUMBER" ≠ "" := by decide
  obtain ⟨sign, rest, split, signEnds, noDigit⟩ := Numeral.exists_of_not_begins none
  obtain ⟨failed, fails, told⟩ := number_fails signEnds noDigit []
  refine ⟨sign, rest, split, signEnds, failed, ?_⟩
  rw [TextCursor.start_eq_onText split, TextCursor.after_eq_onText split]
  exact ⟨fails, labeled_failed_label named fails, told⟩

end

/-- The parser of numbers accepts exactly the texts that begin with a numeral, and reads the
longest one. -/
theorem number_reads_numerals {text : String} (short : text.utf8ByteSize ≤ Limits.unlimited)
    (context : Context Unit) : ReadsNumerals text context where
  accepts := by
    constructor
    · intro succeeds
      refine Classical.byContradiction fun none => ?_
      obtain ⟨_, _, _, _, failed, fails, _⟩ := number_refuses none
      rw [fails.comes] at succeeds
      cases succeeds
    · intro begins
      obtain ⟨n, rest, split, ends⟩ := Numeral.exists_of_begins begins
      rw [(number_yields short split ends).comes]
      rfl
  longest := by
    refine ⟨Numeral.exists_of_begins, ?_⟩
    rintro ⟨n, rest, split, _⟩
    rw [split]
    exact n.begins rest
  success := number_yields short
  failure := number_refuses
  converts {parts last} succeeds := by
    by_cases begins : BeginsNumeral text.toList
    · obtain ⟨n, rest, split, ends⟩ := Numeral.exists_of_begins begins
      obtain ⟨rfl, rfl⟩ :=
        Outcome.success.inj ((numberParts_yields short split ends).comes.symm.trans succeeds)
      have whole : numberText n.parts ++ (onText n.text rest).rest = text := by
        rw [numberText_parts, ← TextCursor.ofList_unread, TextCursor.onText_unread,
          ← String.ofList_append, ← split, String.ofList_toList]
      rw [TextCursor.after_eq_onText split]
      exact ⟨whole, _, readNumber_parts n⟩
    · obtain ⟨sign, rest, split, signEnds, noDigit⟩ := Numeral.exists_of_not_begins begins
      obtain ⟨failed, fails, _⟩ := numberParts_fails signEnds noDigit []
      rw [TextCursor.start_eq_onText split, fails.comes] at succeeds
      cases succeeds
  complete := by
    constructor
    · rintro ⟨bits, came⟩
      by_cases begins : BeginsNumeral text.toList
      · obtain ⟨n, rest, split, ends⟩ := Numeral.exists_of_begins begins
        have completes := (number_completes short split ends).comes.symm.trans came
        by_cases read : rest = []
        · rw [read, List.append_nil] at split
          exact ⟨n, split⟩
        · rw [if_neg read] at completes
          cases completes
      · obtain ⟨_, _, _, _, failed, fails, _⟩ := number_refuses begins
        cases (parseComplete_fails fails).comes.symm.trans came
    · rintro ⟨n, spelled⟩
      have split : text.toList = n.text ++ [] := by rw [spelled, List.append_nil]
      exact ⟨_, (number_completes short split n.ends_nil).comes.trans (if_pos rfl)⟩

/-- A number with a point that no digit follows, in front of a letter. -/
theorem number_reads_numerals_trailing_point :
    "-7.x".utf8ByteSize ≤ Limits.unlimited ∧ ReadsNumerals "-7.x" ⟨(), 0⟩ ∧
      (number.parse (TextCursor.start "-7.x" .standard) ⟨(), 0⟩).value =
        .success 0xC01C000000000000 (TextCursor.after "-7.x" .standard 3) := by
  have short : "-7.x".utf8ByteSize ≤ Limits.unlimited := by decide
  have reads := number_reads_numerals short ⟨(), 0⟩
  refine ⟨short, reads, ?_⟩
  let n : Numeral :=
    { sign := some .minus
      whole := ['7']
      fraction := some []
      whole_ne_nil := List.cons_ne_nil _ _
      whole_digits := List.forall_mem_singleton.mpr (by decide)
      fraction_digits := by
        rintro _ ⟨⟩
        exact nofun }
  have ends : n.Ends ['x'] := by
    refine ⟨by decide, ?_⟩
    rintro ⟨⟩
  have bits : n.value.toBits = 0xC01C000000000000 := by decide
  exact bits ▸ (reads.success rfl ends).comes

end Parser

end Descent
