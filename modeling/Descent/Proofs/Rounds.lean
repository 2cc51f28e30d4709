import Descent.Proofs.Unfolding
import Descent.Proofs.Yields

/-!
# Rounds of items and delimiters

A separated repetition reads items in rounds, with a delimiter after each if there is one.
It goes on as long as the rounds move and ends, without failing, at the first place where the
input ends, the item fails, or a round moves nothing.  If one item is required, the first
round is kept even if it moves nothing.
-/

namespace Descent

variable {σ ι κ ω α β : Type}

/-- Where the delimiter leaves off, or where it was tried if it fails. -/
def past (delimiter : σ → Outcome σ β) (t : σ) : σ :=
  match delimiter t with
  | .success _ next => next
  | .failure _ => t

/-- One round: an item, and the delimiter after it if there is one. -/
def round (ended : σ → Bool) (delimiter : σ → Outcome σ β) (item : σ → Outcome σ α) (s : σ) :
    Option (α × σ) :=
  if ended s then none
  else
    match item s with
    | .failure _ => none
    | .success value t => some (value, past delimiter t)

/-- Rounds in a row up to one that reads or moves nothing, with their values and the place
where they end. -/
inductive Rounds [Cursor σ ι ω] (round : σ → Option (α × σ)) : σ → List α → σ → Prop where
  | refused {s : σ} : round s = none → Rounds round s [] s
  | stalled {s next : σ} {value : α} : round s = some (value, next) →
      Cursor.position next = Cursor.position s → Rounds round s [] s
  | next {s next last : σ} {value : α} {values : List α} : round s = some (value, next) →
      Cursor.position next ≠ Cursor.position s → Rounds round next values last →
        Rounds round s (value :: values) last

section

variable {ended : σ → Bool} {delimiter : σ → Outcome σ β} {item : σ → Outcome σ α} {s : σ}

theorem round_eq_none_iff :
    round ended delimiter item s = none ↔ ended s = true ∨ (item s).isFailure = true := by
  unfold round
  cases ended s with
  | true => simp
  | false => cases item s <;> simp [Outcome.isFailure, Outcome.isSuccess]

theorem round_eq_some_iff {value : α} {next : σ} :
    round ended delimiter item s = some (value, next) ↔
      ended s = false ∧ ∃ t, item s = .success value t ∧ past delimiter t = next := by
  unfold round
  cases ended s with
  | true => simp
  | false => cases item s <;> simp

end

variable [Cursor σ ι ω]

namespace Rounds

variable {round : σ → Option (α × σ)} {s last : σ} {values : List α}

theorem unique {last' : σ} {values' : List α} (first : Rounds round s values last)
    (second : Rounds round s values' last') : values' = values ∧ last' = last := by
  induction first generalizing values' with
  | refused missed =>
      cases second with
      | refused => exact ⟨rfl, rfl⟩
      | stalled => exact ⟨rfl, rfl⟩
      | next came => cases missed.symm.trans came
  | stalled came stuck =>
      cases second with
      | refused => exact ⟨rfl, rfl⟩
      | stalled => exact ⟨rfl, rfl⟩
      | next came' moved =>
          cases came.symm.trans came'
          exact absurd stuck moved
  | next came moved _ ih =>
      cases second with
      | refused missed => cases missed.symm.trans came
      | stalled came' stuck =>
          cases came.symm.trans came'
          exact absurd stuck moved
      | next came' _ later =>
          cases came.symm.trans came'
          obtain ⟨rfl, rfl⟩ := ih later
          exact ⟨rfl, rfl⟩

end Rounds

/-- Among some places of an input of limited length, a position tells the place, and asking
for the end settles. -/
structure Terrain (there : σ → Prop) (settled : Context ω → Prop) (ended : σ → Bool) : Prop where
  bounded : ∀ {s}, there s → Cursor.position s ≤ Limits.unlimited
  distinct : ∀ {s t}, there s → there t → Cursor.position s = Cursor.position t → s = t
  asks : ∀ {s}, there s → (Run.ask (Cursor.atEnd s)).Settles settled (ended s)

/-- From such places a run settles on results that do not leave them or move back. -/
structure Treads (there : σ → Prop) (settled : Context ω → Prop)
    (run : σ → Run ω (Outcome σ α)) (results : σ → Outcome σ α) : Prop where
  settles : ∀ {s}, there s → (run s).Settles settled (results s)
  stays : ∀ {s}, there s → there (results s).remaining
  forward : ∀ {s}, there s → Cursor.position s ≤ Cursor.position (results s).remaining

variable {there : σ → Prop} {settled : Context ω → Prop} {ended : σ → Bool}
  {delimiter : σ → Outcome σ β} {item : σ → Outcome σ α}

/-- Going past a delimiter does not leave the places of an input or move back. -/
theorem Treads.past {D : σ → Run ω (Outcome σ β)} (delimiters : Treads there settled D delimiter)
    {t : σ} (here : there t) :
    there (Descent.past delimiter t) ∧
      Cursor.position t ≤ Cursor.position (Descent.past delimiter t) := by
  have stays := delimiters.stays here
  have forward := delimiters.forward here
  unfold Descent.past
  cases passed : delimiter t with
  | failure failed => exact ⟨here, Nat.le_refl _⟩
  | success other next =>
      rw [passed] at stays forward
      exact ⟨stays, forward⟩

theorem Treads.round {D : σ → Run ω (Outcome σ β)} {P : σ → Run ω (Outcome σ α)}
    (delimiters : Treads there settled D delimiter) (items : Treads there settled P item)
    {s next : σ} {value : α} (here : there s)
    (came : Descent.round ended delimiter item s = some (value, next)) :
    there next ∧ Cursor.position s ≤ Cursor.position next := by
  obtain ⟨_, t, read, rfl⟩ := round_eq_some_iff.mp came
  have stays := items.stays here
  have forward := items.forward here
  rw [read] at stays forward
  obtain ⟨further, onward⟩ := delimiters.past stays
  exact ⟨further, forward.trans onward⟩

namespace Rounds

variable {round : σ → Option (α × σ)}

/-- From every place there are rounds to an end, no more of them than the input is long. -/
theorem exists_of_bounded {limit : Nat} (bounded : ∀ {s}, there s → Cursor.position s ≤ limit)
    (onward : ∀ {s value next}, there s → round s = some (value, next) →
      there next ∧ Cursor.position s ≤ Cursor.position next)
    {s : σ} (here : there s) :
    ∃ values last, Rounds round s values last ∧ values.length + Cursor.position s ≤ limit := by
  generalize left : limit - Cursor.position s = room
  induction room using Nat.strongRecOn generalizing s with
  | _ room ih =>
      have within := bounded here
      cases came : round s with
      | none => exact ⟨[], s, .refused came, by simpa using within⟩
      | some read =>
          obtain ⟨value, next⟩ := read
          obtain ⟨there', ahead⟩ := onward here came
          by_cases stuck : Cursor.position next = Cursor.position s
          · exact ⟨[], s, .stalled came stuck, by simpa using within⟩
          · have nextWithin := bounded there'
            obtain ⟨values, last, rounds, few⟩ := ih _ (by omega) there' rfl
            refine ⟨value :: values, last, .next came stuck rounds, ?_⟩
            rw [List.length_cons]
            omega

end Rounds

namespace Parser

/-- At some places a parser settles on what a round comes to. -/
structure ReadsRound (q : Parser σ ω α) (there : σ → Prop) (settled : Context ω → Prop)
    (round : σ → Option (α × σ)) : Prop where
  refuses : ∀ {s}, there s → round s = none →
    ∃ failed, (q.parse s).Settles settled (.failure failed)
  reads : ∀ {s value next}, there s → round s = some (value, next) →
    (q.parse s).Settles settled (.success value next)
  onward : ∀ {s value next}, there s → round s = some (value, next) →
    there next ∧ Cursor.position s ≤ Cursor.position next

variable {D : Parser σ ω β} {P : Parser σ ω α}

/-- An optional delimiter leaves off past the delimiter. -/
theorem optional_past (delimiters : Treads there settled D.parse delimiter) {t : σ}
    (here : there t) :
    ∃ found, (D.optional.parse t).Settles settled (.success found (past delimiter t)) := by
  have tried := delimiters.settles here
  unfold past
  cases passed : delimiter t with
  | failure failed =>
      rw [passed] at tried
      exact ⟨none, optional_skips tried⟩
  | success other next =>
      rw [passed] at tried
      exact ⟨some other, optional_settles tried⟩

theorem delimited_readsRound (terrain : Terrain there settled ended)
    (delimiters : Treads there settled D.parse delimiter)
    (items : Treads there settled P.parse item) :
    (delimited D P).ReadsRound there settled (round ended delimiter item) where
  refuses {s} here missed := by
    have asks := terrain.asks here
    cases stop : ended s with
    | true =>
        rw [stop] at asks
        exact ⟨_, guarded_settles_end asks⟩
    | false =>
        rw [stop] at asks
        have first := items.settles here
        cases read : item s with
        | failure failed =>
            rw [read] at first
            have fails : ((P.keepFirst D.optional).parse s).Settles settled
                (.failure (failed.relabel P.label)) := runBoth_fails_first first
            exact ⟨_, guarded_settles asks fails⟩
        | success value t =>
            have came : round ended delimiter item s = some (value, past delimiter t) :=
              round_eq_some_iff.mpr ⟨stop, t, read, rfl⟩
            cases came.symm.trans missed
  reads {s value next} here came := by
    obtain ⟨unread, t, read, rfl⟩ := round_eq_some_iff.mp came
    have asks := terrain.asks here
    have first := items.settles here
    have stays := items.stays here
    rw [unread] at asks
    rw [read] at first stays
    obtain ⟨found, second⟩ := optional_past delimiters stays
    have succeeds : ((P.keepFirst D.optional).parse s).Settles settled
        (.success value (past delimiter t)) := runBoth_settles first second
    exact guarded_settles asks succeeds
  onward := delimiters.round items

variable {q : Parser σ ω α} {round : σ → Option (α × σ)} {s last : σ} {values : List α}

theorem ReadsRound.collect (reads : q.ReadsRound there settled round)
    (rounds : Rounds round s values last) (here : there s) {cap : Nat}
    (enough : values.length ≤ cap) (label : String) :
    (q.collect label true cap s).Settles settled (values, last) := by
  induction rounds generalizing cap with
  | refused missed =>
      obtain ⟨failed, fails⟩ := reads.refuses here missed
      exact collect_stops fails
  | stalled came stuck => exact collect_stalls (reads.reads here came) stuck
  | next came moved _ ih =>
      cases cap with
      | zero => cases enough
      | succ cap =>
          have onward := ih (reads.onward here came).1 (Nat.le_of_succ_le_succ enough)
          exact collect_goes (reads.reads here came) moved onward

section

variable {limits : Limits} (guard : limits.requireProgress = true) (label : String)

include guard

theorem ReadsRound.many (reads : q.ReadsRound there settled round) (here : there s)
    (rounds : Rounds round s values last) (few : values.length ≤ limits.maxRepetitions) :
    ((q.many limits).run label s).Settles settled (.success values last) := by
  apply many_settles
  rw [guard]
  exact reads.collect rounds here few label

theorem ReadsRound.many1 (reads : q.ReadsRound there settled round) (here : there s) {value : α}
    {next : σ} (came : round s = some (value, next)) (rounds : Rounds round next values last)
    (few : values.length ≤ limits.maxRepetitions - 1) :
    ((q.many1 limits).run label s).Settles settled (.success (value :: values) last) := by
  apply many1_settles (reads.reads here came)
  rw [guard]
  exact reads.collect rounds (reads.onward here came).1 few label

end

end Parser

section

variable {q : Parser σ ω α} {round : σ → Option (α × σ)} (terrain : Terrain there settled ended)
  (reads : q.ReadsRound there settled round) {s : σ} (here : there s)

include terrain reads here

theorem Terrain.exists_rounds :
    ∃ values last, Rounds round s values last ∧
      values.length + Cursor.position s ≤ Limits.unlimited :=
  Rounds.exists_of_bounded terrain.bounded reads.onward here

/-- After a first round there is room for the further ones: either it has moved, or the next
round moves as little. -/
theorem Terrain.exists_rounds_after {value : α} {next : σ} (came : round s = some (value, next)) :
    ∃ values last, Rounds round next values last ∧
      values.length ≤ Limits.unlimited - 1 := by
  obtain ⟨there', ahead⟩ := reads.onward here came
  by_cases stuck : Cursor.position next = Cursor.position s
  · have same : next = s := terrain.distinct there' here stuck
    subst same
    exact ⟨[], next, .stalled came rfl, Nat.zero_le _⟩
  · obtain ⟨values, last, rounds, few⟩ := terrain.exists_rounds reads there'
    exact ⟨values, last, rounds, by omega⟩

end

namespace Grammar

theorem levels_separated {ι κ : Type} (rules : Rules ι κ) (d p : Grammar ι κ)
    (limits : Limits) :
    levels rules d ≤ levels rules (.separated d p limits) ∧
      levels rules p ≤ levels rules (.separated d p limits) := by
  simp only [levels, depthLimit]
  omega

variable [Item ι] [Leaves κ σ ω] {rules : Rules ι κ} {grammar d p : Grammar ι κ} {s : σ}

/-- In a scope of enough levels a grammar settles on what its parse settles on. -/
theorem build_settles (counted : (Correspondence.counted σ).Leafwise κ) {levels : Nat}
    (enough : Grammar.levels rules grammar ≤ levels) {outcome : Outcome σ Value}
    (settles : (grammar.parse rules s).Settles settled outcome) :
    ((grammar.build (rules.scope levels) none).value.parse s).Settles settled outcome := by
  rw [← Grammar.parseIn_scope counted enough s] at settles
  exact ⟨settles.comes, settles.keeps⟩

theorem build_treads (counted : (Correspondence.counted σ).Leafwise κ) {levels : Nat}
    (enough : Grammar.levels rules grammar ≤ levels) {results : σ → Outcome σ Value}
    (treads : Treads there settled (grammar.parse rules) results) :
    Treads there settled (grammar.build (rules.scope levels) none).value.parse results :=
  ⟨fun here => build_settles counted enough (treads.settles here), treads.stays, treads.forward⟩

/-- A round of two grammars, each asked in the same context. -/
def round (rules : Rules ι κ) (d p : Grammar ι κ) (context : Context ω) : σ → Option (Value × σ) :=
  Descent.round (fun s => (Cursor.atEnd s context.shared).1)
    (fun s => (d.parse rules s context).value) fun s => (p.parse rules s context).value

/-- What separated repetitions of a grammar read from a place on. -/
structure Separates (rules : Rules ι κ) (d p : Grammar ι κ) (s : σ) (context : Context ω) :
    Prop where
  ends : ∃ values last, Rounds (round rules d p context) s values last
  separated : ∀ {values last}, Rounds (round rules d p context) s values last →
    ((Grammar.separated d p .standard).parse rules s context).value = .success (.list values) last
  separated1_fails :
    ((Grammar.separated1 d p .standard).parse rules s context).value.isFailure = true ↔
      (Cursor.atEnd s context.shared).1 = true ∨
        (p.parse rules s context).value.isFailure = true
  /-- The first value is kept even if nothing moved. -/
  separated1 : ∀ {value next}, round rules d p context s = some (value, next) →
    (∃ values last, Rounds (round rules d p context) next values last) ∧
      ∀ {values last}, Rounds (round rules d p context) next values last →
        ((Grammar.separated1 d p .standard).parse rules s context).value =
          .success (.list (value :: values)) last

/-- The parser of one round. -/
def delimited (rules : Rules ι κ) (d p : Grammar ι κ) (limits : Limits) : Parser σ ω Value :=
  let scope := rules.scope (levels rules (.separated d p limits))
  Parser.delimited (d.build scope none).value (p.build scope none).value

section

variable {limits : Limits} {outcome : Outcome σ (List Value)}

theorem separated_settles
    (settles : (((delimited rules d p limits).many limits).run "SEPARATED" s).Settles settled
      outcome) :
    ((Grammar.separated d p limits).parse rules s).Settles settled (outcome.map .list) := by
  apply (Run.Settles.adopt _).bind
  rw [Grammar.parser, Grammar.build]
  exact settles.map _

theorem separated1_settles
    (settles : (((delimited rules d p limits).many1 limits).run "SEPARATED" s).Settles settled
      outcome) :
    ((Grammar.separated1 d p limits).parse rules s).Settles settled (outcome.map .list) := by
  apply (Run.Settles.adopt _).bind
  rw [Grammar.parser, Grammar.build]
  exact settles.map _

end

/-- Where grammars tread, separated repetitions of them read rounds. -/
theorem separates (counted : (Correspondence.counted σ).Leafwise κ) {context : Context ω}
    (terrain : Terrain there settled fun s => (Cursor.atEnd s context.shared).1)
    (treads : ∀ grammar : Grammar ι κ, Treads there settled (grammar.parse rules)
      fun s => (grammar.parse rules s context).value)
    (start : settled context) (d p : Grammar ι κ) (here : there s) :
    Separates rules d p s context := by
  obtain ⟨enough, enough'⟩ := levels_separated rules d p .standard
  have reads : (delimited rules d p .standard).ReadsRound there settled (round rules d p context) :=
    Parser.delimited_readsRound terrain (build_treads counted enough (treads d))
      (build_treads counted enough' (treads p))
  constructor
  · obtain ⟨values, last, rounds, _⟩ := terrain.exists_rounds reads here
    exact ⟨values, last, rounds⟩
  · intro values last rounds
    obtain ⟨_, _, own, few⟩ := terrain.exists_rounds reads here
    obtain ⟨rfl, rfl⟩ := own.unique rounds
    have enough : values.length ≤ Limits.standard.maxRepetitions := Nat.le_of_add_right_le few
    exact (separated_settles (reads.many rfl _ here rounds enough)).comes context start
  · have refuses : round rules d p context s = none ↔ (Cursor.atEnd s context.shared).1 = true ∨
        (p.parse rules s context).value.isFailure = true := round_eq_none_iff
    rw [← refuses]
    cases came : round rules d p context s with
    | none =>
        obtain ⟨failed, fails⟩ := reads.refuses here came
        have refused : ((Grammar.separated1 d p .standard).parse rules s).Settles settled
            (.failure (failed.relabel "SEPARATED")) := separated1_settles (Parser.many1_fails fails)
        rw [refused.comes context start]
        exact iff_of_true rfl rfl
    | some read =>
        obtain ⟨value, next⟩ := read
        obtain ⟨values, last, own, few⟩ := terrain.exists_rounds_after reads here came
        have success : ((Grammar.separated1 d p .standard).parse rules s).Settles settled
            (.success (.list (value :: values)) last) :=
          separated1_settles (reads.many1 rfl _ here came own few)
        rw [success.comes context start]
        exact iff_of_false nofun nofun
  · intro value next came
    obtain ⟨values, last, own, few⟩ := terrain.exists_rounds_after reads here came
    refine ⟨⟨values, last, own⟩, ?_⟩
    intro others otherLast rounds
    obtain ⟨rfl, rfl⟩ := own.unique rounds
    exact (separated1_settles (reads.many1 rfl _ here came own few)).comes context start

end Grammar

end Descent
