import Descent.Parser.Symbol
import Descent.Proofs.Cursor.Text
import Descent.Proofs.Yields
import Descent.Report

/-!
# Reading characters off a text

A parser reads characters in front of others if it does so in every text and wherever in it
they stand.  What composed parsers read is then put together from what their parts read.
-/

namespace Descent

open Run (Yields)

variable {α β γ : Type}

namespace TextCursor

/-- The place between characters of a text that were read and others that are left, comparing
exactly. -/
def onText (read unread : List Char) : TextCursor :=
  ⟨String.ofList (read ++ unread), Text.byteCount read, .standard,
    Text.boundary_of_split String.toList_ofList⟩

variable {read unread : List Char} {item : String} {c : Char}

theorem onText_unread (read unread : List Char) : (onText read unread).unread = unread :=
  unread_of_split String.toList_ofList rfl

theorem onText_unread_ne_nil (read : List Char) (left : unread ≠ []) :
    (onText read unread).unread ≠ [] := by
  rw [onText_unread]
  exact left

theorem onText_pass (read cs rest : List Char) :
    (onText read (cs ++ rest)).pass cs.length = (String.ofList cs, onText (read ++ cs) rest) := by
  apply Prod.ext
  · rw [pass_fst, onText_unread, List.take_left]
  · apply TextCursor.ext
    · exact congrArg String.ofList (List.append_assoc read cs rest).symm
    · rw [pass_offset, onText_unread, List.take_left]
      exact (Text.byteCount_append read cs).symm
    · rfl

/-- The place after the first characters of a text. -/
theorem after_eq_onText {text : String} {cs rest : List Char} (split : text.toList = cs ++ rest) :
    after text .standard cs.length = onText cs rest := by
  apply TextCursor.ext
  · exact (String.ofList_toList.symm).trans (congrArg String.ofList split)
  · rw [after_offset, split, List.take_left]
    rfl
  · rfl

theorem start_eq_onText {text : String} {cs : List Char} (spelled : text.toList = cs) :
    start text .standard = onText [] cs := by
  have split : text.toList = [] ++ cs := spelled
  exact after_eq_onText split

theorem finish_eq_onText {text : String} {cs : List Char} (spelled : text.toList = cs) :
    finish text .standard = onText cs [] := by
  apply TextCursor.ext
  · rw [← spelled]
    exact String.ofList_toList.symm.trans (congrArg String.ofList (List.append_nil _).symm)
  · rw [← spelled]
    exact (Text.byteCount_toList text).symm
  · rfl

/-- A text has no more characters than bytes, and so no more than a repetition can collect. -/
theorem length_le_unlimited {text : String} (short : text.utf8ByteSize ≤ Limits.unlimited) :
    text.toList.length ≤ Limits.unlimited := by
  have length := Text.length_le_byteCount text.toList
  rw [Text.byteCount_toList] at length
  exact Nat.le_trans length short

theorem take?_onText (read : List Char) (item : String) (rest : List Char) :
    (onText read (item.toList ++ rest)).take? item =
      some (item, onText (read ++ item.toList) rest) := by
  have starts : (onText read (item.toList ++ rest)).startsWith item.toList = true := by
    rw [startsWith, onText_unread]
    simp [onText, TextOptions.standard]
  rw [take?_eq, if_pos starts, onText_pass, String.ofList_toList]

theorem take?_onText_none (other : ¬item.toList <+: unread) :
    (onText read unread).take? item = none := by
  have starts : (onText read unread).startsWith item.toList = false := by
    rw [← Bool.not_eq_true, startsWith, onText_unread]
    simpa [onText, TextOptions.standard, List.isPrefixOf_iff_prefix] using other
  simp [take?_eq, starts]

theorem takeSymbol?_onText (read rest : List Char) {accept : Char → Bool}
    (accepted : accept c = true) :
    (onText read (c :: rest)).takeSymbol? accept =
      some (String.singleton c, onText (read ++ [c]) rest) := by
  have passed := onText_pass read [c] rest
  rw [takeSymbol?_eq, onText_unread, List.head?_cons, Option.any_some, if_pos accepted]
  exact congrArg some passed

theorem takeSymbol?_onText_none {accept : Char → Bool} (rejected : accept c = false) :
    (onText read (c :: unread)).takeSymbol? accept = none := by
  simp [takeSymbol?_eq, onText_unread, rejected]

end TextCursor

open TextCursor (onText onText_unread onText_unread_ne_nil)

namespace Parser

variable {context : Context Unit}

section

variable {s : TextCursor} {p : Parser TextCursor Unit α}

theorem ask_yields {answer : β} {query : Query Unit β}
    (answers : (query context.shared).1 = answer) : (Run.ask query).Yields context answer :=
  .of_eq answers rfl

theorem atEnd_yields (s : TextCursor) :
    (Run.ask (Cursor.atEnd s)).Yields context s.unread.isEmpty :=
  ask_yields (congrArg Prod.fst (s.atEnd_eq _))

theorem guarded_yields {outcome : Outcome TextCursor α} (unread : s.unread ≠ [])
    (inner : (p.parse s).Yields context outcome) :
    (p.guarded.parse s).Yields context (outcome.relabel p.label) :=
  guarded_settles (List.isEmpty_eq_false_iff.mpr unread ▸ atEnd_yields s) inner

theorem guarded_succeeds {value : α} {last : TextCursor} (unread : s.unread ≠ [])
    (inner : (p.parse s).Yields context (.success value last)) :
    (p.guarded.parse s).Yields context (.success value last) :=
  guarded_yields unread inner

theorem guarded_fails {failed : Failed TextCursor} (unread : s.unread ≠ [])
    (inner : (p.parse s).Yields context (.failure failed)) :
    (p.guarded.parse s).Yields context (.failure (failed.relabel p.label)) :=
  guarded_yields unread inner

theorem guarded_yields_end (ended : s.unread = []) :
    (p.guarded.parse s).Yields context (.fail p.label "EOF" s) :=
  guarded_settles_end (List.isEmpty_iff.mpr ended ▸ atEnd_yields s)

theorem labeled_failed_label {label : String} (named : label ≠ "") {failed : Failed TextCursor}
    (fails : ((Parser.labeled label p).parse s).Yields context (.failure failed)) :
    failed.label = label :=
  guarded_run_outermost fails.comes named

variable {alternatives : List (Parser TextCursor Unit α)}

theorem firstOf_yields {value : α} {last : TextCursor} (unread : s.unread ≠ [])
    (found : (firstSuccess alternatives s).Yields context (some (value, last))) :
    ((firstOf alternatives).parse s).Yields context (.success value last) :=
  guarded_succeeds unread (found.bind (.pure _))

/-- A choice without a match fails where it stands, under its own label only. -/
theorem firstOf_fails (missed : (firstSuccess alternatives s).Yields context none) :
    ((firstOf alternatives).parse s).Yields context
      (.fail (choiceLabel (alternatives.map label))
        (if s.unread = [] then "EOF" else "no alternative matched") s) := by
  by_cases ended : s.unread = []
  · rw [if_pos ended]
    exact guarded_yields_end ended
  · rw [if_neg ended, Outcome.fail, Failed.report, ← Failed.relabel_relabel]
    exact guarded_fails ended (missed.bind (.pure _))

theorem parseComplete_yields {value : α} {last : TextCursor}
    (succeeds : (p.parse s).Yields context (.success value last)) :
    (p.parseComplete s).Yields context
      (if last.unread = [] then .ok value else .error (.notConsumed last.offset)) := by
  apply succeeds.bind
  apply (atEnd_yields last).bind
  cases last.unread with
  | nil => exact .pure _
  | cons c rest => exact .pure _

theorem parseComplete_fails {failed : Failed TextCursor}
    (fails : (p.parse s).Yields context (.failure failed)) :
    (p.parseComplete s).Yields context
      (.error (.failed failed.display failed.remaining.offset)) :=
  fails.bind (.pure _)

end

/-- In front of the rest, a parser reads characters off a text and yields a value. -/
def Reads (p : Parser TextCursor Unit α) (context : Context Unit) (cs : List Char) (value : α)
    (rest : List Char) : Prop :=
  ∀ read, (p.parse (onText read (cs ++ rest))).Yields context
    (.success value (onText (read ++ cs) rest))

/-- A parser has read characters off a text when it fails in front of the rest. -/
def FailsAfter (p : Parser TextCursor Unit α) (context : Context Unit) (cs : List Char)
    (reason : String) (rest : List Char) : Prop :=
  ∀ read, ∃ failed,
    (p.parse (onText read (cs ++ rest))).Yields context (.failure failed) ∧
      failed.reason = reason ∧ failed.remaining = onText (read ++ cs) rest

/-- A parser fails in front of characters. -/
def Misses (p : Parser TextCursor Unit α) (context : Context Unit) (unread : List Char) : Prop :=
  ∀ read, ∃ failed,
    (p.parse (onText read unread)).Yields context (.failure failed)

variable {p : Parser TextCursor Unit α} {q : Parser TextCursor Unit β} {cs more rest : List Char}
  {value : α} {next : β} {reason : String}

theorem FailsAfter.misses (fails : p.FailsAfter context cs reason rest) :
    p.Misses context (cs ++ rest) := by
  intro read
  obtain ⟨failed, yields, _⟩ := fails read
  exact ⟨failed, yields⟩

theorem Reads.runBoth {label : String} {combine : α → β → γ} {read : List Char}
    (first : p.Reads context cs value (more ++ rest)) (second : q.Reads context more next rest) :
    (Parser.runBoth label combine p q (onText read ((cs ++ more) ++ rest))).Yields context
      (.success (combine value next) (onText (read ++ (cs ++ more)) rest)) := by
  rw [List.append_assoc, ← List.append_assoc read cs more]
  exact runBoth_settles (first read) (second _)

theorem Reads.both (first : p.Reads context cs value (more ++ rest))
    (second : q.Reads context more next rest) :
    (p.both q).Reads context (cs ++ more) (value, next) rest :=
  fun _ => first.runBoth second

theorem Reads.keepFirst (first : p.Reads context cs value (more ++ rest))
    (second : q.Reads context more next rest) :
    (p.keepFirst q).Reads context (cs ++ more) value rest :=
  fun _ => first.runBoth second

theorem Reads.keepSecond (first : p.Reads context cs value (more ++ rest))
    (second : q.Reads context more next rest) :
    (p.keepSecond q).Reads context (cs ++ more) next rest :=
  fun _ => first.runBoth second

theorem Reads.optional (reads : p.Reads context cs value rest) :
    p.optional.Reads context cs (some value) rest :=
  fun read => optional_settles (reads read)

theorem Misses.optional (misses : p.Misses context rest) :
    p.optional.Reads context [] none rest := by
  intro read
  obtain ⟨failed, fails⟩ := misses read
  rw [List.append_nil]
  exact optional_skips fails

theorem Reads.labeled (reads : p.Reads context cs value rest) (unread : cs ++ rest ≠ [])
    (label : String) : (Parser.labeled label p).Reads context cs value rest :=
  fun read => guarded_succeeds (onText_unread_ne_nil read unread) (reads read)

theorem Reads.map (reads : p.Reads context cs value rest) (f : α → β) :
    (p.map f).Reads context cs (f value) rest :=
  fun read => map_settles f (reads read)

theorem Reads.tryMap {ε : Type} {f : α → Except ε β} {message : ε → String}
    (reads : p.Reads context cs value rest) (accepted : f value = .ok next) :
    (p.tryMap f message).Reads context cs next rest :=
  fun read => tryMap_settles (reads read) accepted

theorem Reads.deferred {label : String} {limit : Nat}
    {build : Unit → Logged (Parser TextCursor Unit α)} (room : context.depth < limit)
    (reads : (build ()).value.Reads ⟨context.shared, context.depth + 1⟩ cs value rest) :
    (Parser.deferred label limit build).Reads context cs value rest :=
  fun read => deferred_yields room (reads read)

section

variable {label : String} {combine : α → β → γ} {read : List Char}

theorem FailsAfter.runBoth (first : p.FailsAfter context cs reason rest) :
    ∃ failed, (Parser.runBoth label combine p q (onText read (cs ++ rest))).Yields context
        (.failure failed) ∧
      failed.reason = reason ∧ failed.remaining = onText (read ++ cs) rest := by
  obtain ⟨failed, fails, why, place⟩ := first read
  exact ⟨_, runBoth_fails_first fails, (failed.relabel_reason label).trans why,
    (failed.relabel_remaining label).trans place⟩

theorem Reads.runBoth_fails (first : p.Reads context cs value (more ++ rest))
    (second : q.FailsAfter context more reason rest) :
    ∃ failed, (Parser.runBoth label combine p q (onText read ((cs ++ more) ++ rest))).Yields
        context (.failure failed) ∧ failed.reason = reason ∧
      failed.remaining = onText (read ++ (cs ++ more)) rest := by
  rw [List.append_assoc, ← List.append_assoc read cs more]
  obtain ⟨failed, fails, why, place⟩ := second (read ++ cs)
  exact ⟨_, runBoth_fails_second (first read) fails,
    (failed.relabel_reason label).trans why, (failed.relabel_remaining label).trans place⟩

end

theorem FailsAfter.both (first : p.FailsAfter context cs reason rest)
    (q : Parser TextCursor Unit β) : (p.both q).FailsAfter context cs reason rest :=
  fun _ => first.runBoth

theorem Reads.both_fails (first : p.Reads context cs value (more ++ rest))
    (second : q.FailsAfter context more reason rest) :
    (p.both q).FailsAfter context (cs ++ more) reason rest :=
  fun _ => first.runBoth_fails second

theorem FailsAfter.many1 (first : p.FailsAfter context cs reason rest) (limits : Limits) :
    (p.many1 limits).FailsAfter context cs reason rest := by
  intro read
  obtain ⟨failed, fails, why, place⟩ := first read
  exact ⟨_, many1_fails fails, (failed.relabel_reason _).trans why,
    (failed.relabel_remaining _).trans place⟩

theorem FailsAfter.tryMap {ε : Type} {f : α → Except ε β} {message : ε → String}
    (fails : p.FailsAfter context cs reason rest) :
    (p.tryMap f message).FailsAfter context cs reason rest := by
  intro read
  obtain ⟨failed, fails, why⟩ := fails read
  exact ⟨failed, tryMap_fails fails, why⟩

theorem FailsAfter.labeled (fails : p.FailsAfter context cs reason rest)
    (unread : cs ++ rest ≠ []) (label : String) :
    (Parser.labeled label p).FailsAfter context cs reason rest := by
  intro read
  obtain ⟨failed, fails, why, place⟩ := fails read
  exact ⟨_, guarded_fails (onText_unread_ne_nil read unread) fails,
    (failed.relabel_reason _).trans why, (failed.relabel_remaining _).trans place⟩

/-- At the end of a text no guarded parser reads anything. -/
theorem guarded_fails_end (p : Parser TextCursor Unit α) :
    p.guarded.FailsAfter context [] "EOF" [] := by
  intro read
  rw [List.append_nil, List.append_nil]
  exact ⟨_, guarded_yields_end (onText_unread read []), Failed.relabel_reason _ _,
    Failed.relabel_remaining _ _⟩

section

variable {unread : List Char}

theorem Misses.map (misses : p.Misses context unread) (f : α → β) :
    (p.map f).Misses context unread := by
  intro read
  obtain ⟨failed, fails⟩ := misses read
  exact ⟨failed, map_settles f fails⟩

theorem Misses.labeled (misses : p.Misses context unread) (label : String) :
    (Parser.labeled label p).Misses context unread := by
  intro read
  by_cases ended : unread = []
  · exact ⟨_, guarded_yields_end ((onText_unread read unread).trans ended)⟩
  · obtain ⟨failed, fails⟩ := misses read
    exact ⟨_, guarded_fails (onText_unread_ne_nil read ended) fails⟩

theorem Misses.keepFirst (misses : p.Misses context unread) (q : Parser TextCursor Unit β) :
    (p.keepFirst q).Misses context unread := by
  intro read
  obtain ⟨failed, fails⟩ := misses read
  exact ⟨_, runBoth_fails_first fails⟩

theorem Misses.keepSecond (misses : p.Misses context unread) (q : Parser TextCursor Unit β) :
    (p.keepSecond q).Misses context unread := by
  intro read
  obtain ⟨failed, fails⟩ := misses read
  exact ⟨_, runBoth_fails_first fails⟩

theorem Reads.keepFirst_misses (first : p.Reads context cs value rest)
    (second : q.Misses context rest) : (p.keepFirst q).Misses context (cs ++ rest) := by
  intro read
  obtain ⟨failed, fails⟩ := second (read ++ cs)
  exact ⟨_, runBoth_fails_second (first read) fails⟩

section

variable {label : String} {limit : Nat} {build : Unit → Logged (Parser TextCursor Unit α)}

theorem Misses.deferred (room : context.depth < limit)
    (misses : (build ()).value.Misses ⟨context.shared, context.depth + 1⟩ unread) :
    (Parser.deferred label limit build).Misses context unread := by
  intro read
  obtain ⟨failed, fails⟩ := misses read
  exact ⟨failed, deferred_yields room fails⟩

theorem deferred_misses (full : limit ≤ context.depth) :
    (Parser.deferred label limit build).Misses context unread :=
  fun _ => ⟨_, deferred_fails full⟩

end

end

section

variable {δ : Type} {before : Parser TextCursor Unit β} {after : Parser TextCursor Unit δ}
  {opening closing : List Char} {bracket : β} {other : δ}

theorem Reads.between (opens : before.Reads context opening bracket (cs ++ (closing ++ rest)))
    (inner : p.Reads context cs value (closing ++ rest))
    (closes : after.Reads context closing other rest) (some : opening ≠ []) :
    (Parser.between before after p).Reads context (opening ++ cs ++ closing) value rest :=
  ((opens.keepSecond inner).keepFirst closes).labeled (by simp [some]) "BETWEEN"

theorem Reads.between_misses (opens : before.Reads context opening bracket (cs ++ rest))
    (inner : p.Reads context cs value rest) (unclosed : after.Misses context rest) :
    (Parser.between before after p).Misses context (opening ++ cs ++ rest) :=
  ((opens.keepSecond inner).keepFirst_misses unclosed).labeled "BETWEEN"

theorem Misses.between {unread : List Char} (unopened : before.Misses context unread)
    (after : Parser TextCursor Unit δ) (p : Parser TextCursor Unit α) :
    (Parser.between before after p).Misses context unread :=
  ((unopened.keepSecond p).keepFirst after).labeled "BETWEEN"

end

section

variable {earlier later alternatives : List (Parser TextCursor Unit α)}

theorem firstSuccess_append {s : TextCursor} {result : Option (α × TextCursor)}
    (skipped : ∀ q ∈ earlier, ∃ failed, (q.parse s).Yields context (.failure failed))
    (onward : (firstSuccess later s).Yields context result) :
    (firstSuccess (earlier ++ later) s).Yields context result := by
  induction earlier with
  | nil => exact onward
  | cons q earlier ih =>
      obtain ⟨⟨failed, fails⟩, others⟩ := List.forall_mem_cons.mp skipped
      exact firstSuccess_skips fails (ih others)

/-- The first alternative that does not fail decides. -/
theorem Reads.firstOf (reads : p.Reads context cs value rest) (unread : cs ++ rest ≠ [])
    (earlier : List (Parser TextCursor Unit α))
    (skipped : ∀ q ∈ earlier, q.Misses context (cs ++ rest))
    (later : List (Parser TextCursor Unit α)) :
    (Parser.firstOf (earlier ++ p :: later)).Reads context cs value rest := by
  intro read
  have found : (firstSuccess (p :: later) (onText read (cs ++ rest))).Yields context
      (some (value, onText (read ++ cs) rest)) :=
    firstSuccess_settles (reads read)
  exact firstOf_yields (onText_unread_ne_nil read unread)
    (firstSuccess_append (fun q member => skipped q member read) found)

theorem firstOf_refuses (missed : ∀ q ∈ alternatives, q.Misses context rest)
    (read : List Char) :
    ((Parser.firstOf alternatives).parse (onText read rest)).Yields context
      (.fail (choiceLabel (alternatives.map label))
        (if rest = [] then "EOF" else "no alternative matched") (onText read rest)) := by
  have missed := firstSuccess_append (fun q member => missed q member read)
    firstSuccess_misses
  rw [List.append_nil] at missed
  have fails := firstOf_fails missed
  rw [onText_unread] at fails
  exact fails

theorem Misses.firstOf (missed : ∀ q ∈ alternatives, q.Misses context rest) :
    (Parser.firstOf alternatives).Misses context rest :=
  fun read => ⟨_, firstOf_refuses missed read⟩

end

/-- One after another, a parser reads values off a text until it fails in front of the rest. -/
inductive ReadsRow (p : Parser TextCursor Unit α) (context : Context Unit) (rest : List Char) :
    List Char → List α → Prop
  | done : p.Misses context rest → ReadsRow p context rest [] []
  | next {cs more : List Char} {value : α} {values : List α} : cs ≠ [] →
      p.Reads context cs value (more ++ rest) → ReadsRow p context rest more values →
        ReadsRow p context rest (cs ++ more) (value :: values)

theorem Reads.delimited {delimiter : Parser TextCursor Unit β} {gap : Option β}
    (reads : p.Reads context cs value (more ++ rest))
    (delimits : delimiter.optional.Reads context more gap rest) (some : cs ≠ []) :
    (Parser.delimited delimiter p).Reads context (cs ++ more) value rest :=
  (reads.keepFirst delimits).labeled (by simp [some]) p.label

theorem Misses.delimited (misses : p.Misses context rest) (delimiter : Parser TextCursor Unit β) :
    (Parser.delimited delimiter p).Misses context rest :=
  (misses.keepFirst _).labeled p.label

namespace ReadsRow

variable {values : List α} {limits : Limits}

theorem length_le (row : p.ReadsRow context rest cs values) : values.length ≤ cs.length := by
  induction row with
  | done => exact Nat.le_refl 0
  | next some _ _ ih =>
      have read := List.length_pos_iff.mpr some
      rw [List.length_append, List.length_cons]
      omega

theorem collect (row : p.ReadsRow context rest cs values) {cap : Nat}
    (enough : values.length ≤ cap) (label : String) (read : List Char) :
    (p.collect label true cap (onText read (cs ++ rest))).Yields context
      (values, onText (read ++ cs) rest) := by
  induction row generalizing cap read with
  | done misses =>
      obtain ⟨failed, fails⟩ := misses read
      rw [List.append_nil]
      exact collect_stops fails
  | @next cs more _ _ some reads _ ih =>
      cases cap with
      | zero => cases enough
      | succ cap =>
          have moved : Text.byteCount (read ++ cs) ≠ Text.byteCount read := by
            have length := Text.length_le_byteCount cs
            rw [Text.byteCount_append]
            have read := List.length_pos_iff.mpr some
            omega
          rw [List.append_assoc, ← List.append_assoc read cs more]
          exact collect_goes (reads read) moved
            (ih (Nat.le_of_succ_le_succ enough) _)

theorem many_run (row : p.ReadsRow context rest cs values) (guard : limits.requireProgress = true)
    (enough : values.length ≤ limits.maxRepetitions) (label : String) (read : List Char) :
    ((p.many limits).run label (onText read (cs ++ rest))).Yields context
      (.success values (onText (read ++ cs) rest)) := by
  apply many_settles
  rw [guard]
  exact row.collect enough label read

theorem many (row : p.ReadsRow context rest cs values) (guard : limits.requireProgress = true)
    (enough : values.length ≤ limits.maxRepetitions) (label : String) :
    ((p.many limits).withLabel label).Reads context cs values rest :=
  row.many_run guard enough label

theorem many1 (row : p.ReadsRow context rest more values)
    (first : p.Reads context cs value (more ++ rest)) (guard : limits.requireProgress = true)
    (enough : values.length < limits.maxRepetitions) (label : String) :
    ((p.many1 limits).withLabel label).Reads context (cs ++ more) (value :: values) rest := by
  intro read
  have within : values.length ≤ limits.maxRepetitions - 1 := by omega
  rw [List.append_assoc, ← List.append_assoc read cs more]
  apply many1_settles (first read)
  rw [guard]
  exact row.collect within label _

end ReadsRow

theorem exact_reads {item : String} (left : item.toList ++ rest ≠ []) :
    (exact item).Reads context item.toList item rest := by
  intro read
  have asked : (Run.ask (Cursor.take? (onText read (item.toList ++ rest)) item)).Yields
      context (some (item, onText (read ++ item.toList) rest)) :=
    ask_yields (TextCursor.take?_onText read item rest)
  exact guarded_succeeds (onText_unread_ne_nil read left) (asked.bind (.pure _))

theorem exact_misses {item : String} (other : ¬item.toList <+: rest) :
    (exact item).Misses context rest := by
  intro read
  by_cases ended : rest = []
  · exact ⟨_, guarded_yields_end ((onText_unread read rest).trans ended)⟩
  · have asked : (Run.ask (Cursor.take? (onText read rest) item)).Yields context none :=
      ask_yields (TextCursor.take?_onText_none other)
    exact ⟨_, guarded_fails (onText_unread_ne_nil read ended) (asked.bind (.pure _))⟩

theorem exact_char_reads (c : Char) (rest : List Char) :
    (exact (String.singleton c)).Reads context [c] (String.singleton c) rest := by
  have reads : (exact (String.singleton c)).Reads context (String.singleton c).toList
      (String.singleton c) rest := exact_reads (by simp)
  rw [String.toList_singleton] at reads
  exact reads

theorem exact_char_misses {c : Char} (other : rest.head? ≠ some c) :
    (exact (String.singleton c)).Misses context rest := by
  apply exact_misses
  rw [String.toList_singleton]
  rintro ⟨later, rfl⟩
  exact other rfl

section

variable {label : String} {accepted : SymbolClass} {c : Char}

theorem symbol_reads (accepts : accepted.accepts c = true) (rest : List Char) :
    (symbol label accepted).Reads context [c] (String.singleton c) rest := by
  intro read
  have asked : (Run.ask (SymbolCursor.takeSymbol? (onText read (c :: rest))
      accepted.accepts)).Yields context
        (some (String.singleton c, onText (read ++ [c]) rest)) :=
    ask_yields (TextCursor.takeSymbol?_onText read rest accepts)
  have left := onText_unread_ne_nil read (List.cons_ne_nil c rest)
  exact guarded_succeeds left (asked.bind (.pure _))

theorem symbol_fails (rejects : ∀ c ∈ rest.head?, accepted.accepts c = false) :
    (symbol label accepted).FailsAfter context []
      (if rest = [] then "EOF" else "unexpected symbol") rest := by
  cases rest with
  | nil => exact guarded_fails_end _
  | cons c rest =>
      intro read
      have asked : (Run.ask (SymbolCursor.takeSymbol? (onText read (c :: rest))
          accepted.accepts)).Yields context none :=
        ask_yields (TextCursor.takeSymbol?_onText_none (rejects c rfl))
      have left := onText_unread_ne_nil read (List.cons_ne_nil c rest)
      refine ⟨_, guarded_fails left (asked.bind (.pure _)), ?_, ?_⟩
      · simp only [Failed.relabel_reason, Failed.report, List.cons_ne_nil, ↓reduceIte]
      · simp only [Failed.relabel_remaining, Failed.report, List.nil_append, List.append_nil]

end

end Parser

end Descent
