import Descent.Proofs.Iterations

/-!
# What repetitions mean

A repetition runs its parser again and again, each time from where it has come to rest the
time before.  What it collects are the values of a row of successes, which a guarded
repetition goes on with only as long as they move; and it stops for one of three reasons,
of which one writes a warning.  Row and reason are determined by parser and limits, so
repetitions that differ in their caps collect values of one row.
-/

namespace Descent

variable {σ ι ω α : Type} [Cursor σ ι ω]

/-- Why a repetition does not go on. -/
inductive Stop where
  | capped
  | failed
  | stalled
  deriving DecidableEq, Repr

/-- What a repetition does from a place on: the values that it collects with the cursor,
context and journal after the last one, and how it stops there. -/
structure Course (σ ω α : Type) where
  values : List α
  last : σ
  middle : Context ω
  collecting : Journal
  stop : Stop
  final : Context ω
  stopping : Journal

namespace Parser

/-- A parser succeeds with values in a row, each time from where it came to rest before;
if it is guarded, it moves each time. -/
inductive Succeeds (p : Parser σ ω α) (guarded : Bool) :
    σ → Context ω → List α → σ → Context ω → Journal → Prop where
  | done (s : σ) (context : Context ω) : Succeeds p guarded s context [] s context []
  | next {s rest last : σ} {context after final : Context ω} {journal later : Journal}
      {value : α} {values : List α} :
      p.parse s context = ⟨.success value rest, after, journal⟩ →
        (guarded = true → Cursor.position rest ≠ Cursor.position s) →
          Succeeds p guarded rest after values last final later →
            Succeeds p guarded s context (value :: values) last final (journal ++ later)

/-- A repetition that has so many values stops.  At its cap it does not run the parser
again; it writes something of its own only if it stalls. -/
inductive Stops (p : Parser σ ω α) (label : String) (limits : Limits) (count : Nat) (s : σ)
    (context : Context ω) : Stop → Context ω → Journal → Prop where
  | capped :
      limits.maxRepetitions ≤ count → Stops p label limits count s context .capped context []
  | failed {after : Context ω} {journal : Journal} {failed : Failed σ} :
      count < limits.maxRepetitions → p.parse s context = ⟨.failure failed, after, journal⟩ →
        Stops p label limits count s context .failed after journal
  | stalled {rest : σ} {after : Context ω} {journal : Journal} {value : α} :
      count < limits.maxRepetitions → limits.requireProgress = true →
        p.parse s context = ⟨.success value rest, after, journal⟩ →
          Cursor.position rest = Cursor.position s →
            Stops p label limits count s context .stalled after
              (journal ++ [.warning (.stalled label p.label (Cursor.position s))])

namespace Succeeds

variable {p : Parser σ ω α} {guarded : Bool} {s last : σ} {context final : Context ω}
  {journal : Journal} {values : List α}

theorem unguarded (row : p.Succeeds guarded s context values last final journal) :
    p.Succeeds false s context values last final journal := by
  induction row with
  | done s context => exact .done s context
  | next came _ _ ih => exact .next came Bool.noConfusion ih

/-- The first values of a row, and the further ones. -/
theorem split (count : Nat) (row : p.Succeeds guarded s context values last final journal) :
    ∃ place middle before after,
      p.Succeeds guarded s context (values.take count) place middle before ∧
        p.Succeeds guarded place middle (values.drop count) last final after := by
  induction row generalizing count with
  | done s context =>
      rw [List.take_nil, List.drop_nil]
      exact ⟨s, context, [], [], .done s context, .done s context⟩
  | @next s _ _ context _ _ _ _ value values came moved row ih =>
      cases count with
      | zero => exact ⟨s, context, [], _, .done s context, .next came moved row⟩
      | succ count =>
          obtain ⟨place, middle, before, after, first, second⟩ := ih count
          exact ⟨place, middle, _, after, .next came moved first, second⟩

end Succeeds

namespace Stops

variable {p : Parser σ ω α} {label : String} {limits : Limits} {count : Nat} {s : σ}
  {context final : Context ω} {stop : Stop} {journal : Journal}

theorem unique {final' : Context ω} {stop' : Stop} {journal' : Journal}
    (first : p.Stops label limits count s context stop final journal)
    (second : p.Stops label limits count s context stop' final' journal') :
    stop = stop' ∧ final = final' ∧ journal = journal' := by
  cases first with
  | capped full =>
      cases second with
      | capped => exact ⟨rfl, rfl, rfl⟩
      | failed room => omega
      | stalled room => omega
  | failed room came =>
      cases second with
      | capped => omega
      | failed _ came' =>
          cases came.symm.trans came'
          exact ⟨rfl, rfl, rfl⟩
      | stalled _ _ came' => cases came.symm.trans came'
  | stalled room guarded came stuck =>
      cases second with
      | capped => omega
      | failed _ came' => cases came.symm.trans came'
      | stalled _ _ came' =>
          cases came.symm.trans came'
          exact ⟨rfl, rfl, rfl⟩

theorem capped_iff (stops : p.Stops label limits count s context stop final journal) :
    stop = .capped ↔ limits.maxRepetitions ≤ count := by
  cases stops with
  | capped full => exact iff_of_true rfl full
  | failed room | stalled room => exact iff_of_false Stop.noConfusion (Nat.not_le.mpr room)

/-- Below its cap a repetition stops as under any other cap. -/
theorem lower {fewer : Nat} (stops : p.Stops label limits count s context stop final journal)
    (lower : fewer ≤ limits.maxRepetitions) (early : count < fewer) :
    p.Stops label (limits.withMaxRepetitions fewer) count s context stop final journal := by
  cases stops with
  | capped full => omega
  | failed _ came => exact .failed early came
  | stalled _ guarded came stuck => exact .stalled early guarded came stuck

/-- A repetition does not stop where it can go on. -/
theorem not_next {rest : σ} {after : Context ω} {value : α} {own : Journal}
    (room : count < limits.maxRepetitions)
    (came : p.parse s context = ⟨.success value rest, after, own⟩)
    (moved : limits.requireProgress = true → Cursor.position rest ≠ Cursor.position s) :
    ¬p.Stops label limits count s context stop final journal := by
  intro stops
  cases stops with
  | capped full => omega
  | failed _ came' => cases came.symm.trans came'
  | stalled _ guarded came' stuck =>
      cases came.symm.trans came'
      exact moved guarded stuck

end Stops

/-- The course of a repetition that has so many values already. -/
structure Follows (p : Parser σ ω α) (label : String) (limits : Limits) (count : Nat) (s : σ)
    (context : Context ω) (course : Course σ ω α) : Prop where
  bounded : course.values.length ≤ limits.maxRepetitions - count
  row : p.Succeeds limits.requireProgress s context course.values course.last course.middle
    course.collecting
  stops : p.Stops label limits (count + course.values.length) course.last course.middle course.stop
    course.final course.stopping

end Parser

/-- What the loop of a repetition comes to on a course. -/
def Course.collected (course : Course σ ω α) : Step ω (List α × σ) :=
  ⟨(course.values, course.last), course.final, course.collecting ++ course.stopping⟩

namespace Parser

variable {p : Parser σ ω α} {label : String} {limits : Limits} {count : Nat} {s : σ}
  {context : Context ω}

/-- One more value in front of a course. -/
theorem Follows.cons {rest : σ} {after : Context ω} {journal : Journal} {value : α}
    {course : Course σ ω α} (room : count < limits.maxRepetitions)
    (came : p.parse s context = ⟨.success value rest, after, journal⟩)
    (moved : limits.requireProgress = true → Cursor.position rest ≠ Cursor.position s)
    (follows : p.Follows label limits (count + 1) rest after course) :
    p.Follows label limits count s context
      { course with
        values := value :: course.values
        collecting := journal ++ course.collecting } := by
  refine ⟨?_, .next came moved follows.row, ?_⟩
  · have bounded := follows.bounded
    rw [List.length_cons]
    omega
  · rw [List.length_cons, ← Nat.add_assoc, Nat.add_right_comm]
    exact follows.stops

theorem Iterates.course {cap calls : Nat} {step : Step ω (List α × σ)}
    (iterates : p.Iterates label limits.requireProgress cap s context calls step)
    (left : cap = limits.maxRepetitions - count) :
    ∃ course, p.Follows label limits count s context course ∧ step = course.collected := by
  induction iterates generalizing count with
  | capped s context =>
      have full : limits.maxRepetitions ≤ count := by omega
      exact ⟨⟨[], s, context, [], .capped, context, []⟩,
        ⟨Nat.zero_le _, .done s context, .capped full⟩, rfl⟩
  | @failed cap s context after journal _ came =>
      have room : count < limits.maxRepetitions := by omega
      exact ⟨⟨[], s, context, [], .failed, after, journal⟩,
        ⟨Nat.zero_le _, .done s context, .failed room came⟩, rfl⟩
  | @stalled cap s rest context after journal _ came guarded stuck =>
      have room : count < limits.maxRepetitions := by omega
      exact ⟨⟨[], s, context, [], .stalled, after, _⟩,
        ⟨Nat.zero_le _, .done s context, .stalled room guarded came stuck⟩, rfl⟩
  | moved came freed _ ih =>
      obtain ⟨course, follows, collected⟩ := @ih (count + 1) (by omega)
      refine ⟨_, follows.cons (by omega) came freed, ?_⟩
      cases collected
      simp only [Course.collected, List.append_assoc]

theorem Succeeds.follows_unique {guarded : Bool} {values : List α} {last : σ}
    {middle final : Context ω} {collecting stopping : Journal} {stop : Stop}
    {other : Course σ ω α} (same : guarded = limits.requireProgress)
    (row : p.Succeeds guarded s context values last middle collecting)
    (bounded : values.length ≤ limits.maxRepetitions - count)
    (stops : p.Stops label limits (count + values.length) last middle stop final stopping)
    (follows : p.Follows label limits count s context other) :
    other = ⟨values, last, middle, collecting, stop, final, stopping⟩ := by
  obtain ⟨values', last', middle', collecting', stop', final', stopping'⟩ := other
  obtain ⟨bounded', row', stops'⟩ := follows
  dsimp only at bounded' row' stops'
  rw [← same] at row'
  induction row generalizing count values' collecting' with
  | done s context =>
      cases row' with
      | done =>
          obtain ⟨rfl, rfl, rfl⟩ := stops.unique stops'
          rfl
      | next came moved =>
          rw [List.length_cons] at bounded'
          exact absurd stops (Stops.not_next (by simp; omega) came (same ▸ moved))
  | next came moved _ ih =>
      rw [List.length_cons] at bounded
      cases row' with
      | done => exact absurd stops' (Stops.not_next (by simp; omega) came (same ▸ moved))
      | next came' _ later =>
          cases came.symm.trans came'
          rw [List.length_cons] at bounded'
          rw [List.length_cons, ← Nat.add_assoc, Nat.add_right_comm] at stops stops'
          cases ih (by omega) stops _ _ (by omega) later stops'
          rfl

theorem Follows.unique {course other : Course σ ω α}
    (follows : p.Follows label limits count s context course)
    (others : p.Follows label limits count s context other) : other = course :=
  follows.row.follows_unique rfl follows.bounded follows.stops others

theorem collect_follows (p : Parser σ ω α) (label : String) (limits : Limits) (count : Nat) (s : σ)
    (context : Context ω) :
    ∃ course, p.Follows label limits count s context course ∧
      p.collect label limits.requireProgress (limits.maxRepetitions - count) s context =
        course.collected := by
  obtain ⟨calls, iterates⟩ := p.collect_iterates label limits.requireProgress
    (limits.maxRepetitions - count) s context
  exact iterates.course rfl

theorem Follows.collect_eq {course : Course σ ω α}
    (follows : p.Follows label limits count s context course) :
    p.collect label limits.requireProgress (limits.maxRepetitions - count) s context =
      course.collected := by
  obtain ⟨own, ownFollows, collected⟩ := p.collect_follows label limits count s context
  rw [collected, ownFollows.unique follows]

/-- With a lower cap a repetition has the first values of its course. -/
theorem Follows.lower {course : Course σ ω α}
    (follows : p.Follows label limits count s context course) {fewer : Nat}
    (lower : fewer ≤ limits.maxRepetitions) :
    ∃ part, p.Follows label (limits.withMaxRepetitions fewer) count s context part ∧
      part.values = course.values.take (fewer - count) ∧
      ∃ further, p.Succeeds limits.requireProgress part.last part.middle
        (course.values.drop (fewer - count)) course.last course.middle further := by
  by_cases reached : fewer - count ≤ course.values.length
  · obtain ⟨place, middle, before, further, first, second⟩ := follows.row.split (fewer - count)
    have length : (course.values.take (fewer - count)).length = fewer - count :=
      List.length_take_of_le reached
    have full : fewer ≤ count + (course.values.take (fewer - count)).length := by omega
    exact ⟨⟨_, place, middle, before, .capped, middle, []⟩,
      ⟨Nat.le_of_eq length, first, .capped full⟩, rfl, further, second⟩
  -- The parser fails or stalls before either cap is reached.
  · have early : count + course.values.length < fewer := by omega
    rw [List.take_of_length_le (by omega), List.drop_of_length_le (by omega)]
    have bounded : course.values.length ≤ fewer - count := by omega
    exact ⟨course, ⟨bounded, follows.row, follows.stops.lower lower early⟩, rfl, [], .done _ _⟩

theorem many_run (p : Parser σ ω α) {course : Course σ ω α}
    (follows : p.Follows label limits 0 s context course) :
    (p.many limits).run label s context =
      ⟨.success course.values course.last, course.final,
        course.collecting ++ course.stopping⟩ := by
  have collected := follows.collect_eq
  rw [Nat.sub_zero] at collected
  simp only [many, Run.map_apply, collected, Course.collected]

theorem many1_run_failure {after : Context ω} {journal : Journal} {failed : Failed σ}
    (came : p.parse s context = ⟨.failure failed, after, journal⟩) :
    (p.many1 limits).run label s context =
      ⟨.failure (failed.relabel label), after, journal⟩ := by
  simp only [many1, Run.bind_apply, came, Run.pure_apply, List.append_nil]

theorem many1_run_success {rest : σ} {after : Context ω} {journal : Journal} {value : α}
    {course : Course σ ω α} (came : p.parse s context = ⟨.success value rest, after, journal⟩)
    (follows : p.Follows label limits 1 rest after course) :
    (p.many1 limits).run label s context =
      ⟨.success (value :: course.values) course.last, course.final,
        journal ++ (course.collecting ++ course.stopping)⟩ := by
  simp only [many1, Run.bind_apply, came, Run.map_apply, follows.collect_eq, Course.collected]

/-- In a row of successes a parser comes by a place after the first values. -/
def Passes (p : Parser σ ω α) (s : σ) (context : Context ω) (first : List α) (place : σ)
    (further : List α) (last : σ) : Prop :=
  ∃ middle before final after, p.Succeeds false s context first place middle before ∧
    p.Succeeds false place middle further last final after

/-- What repetitions of a parser are, whatever their labels and limits. -/
structure Repeats (p : Parser σ ω α) : Prop where
  many : ∀ (limits : Limits) (label : String) (s : σ) (context : Context ω),
    ∃ course, p.Follows label limits 0 s context course ∧
      (∀ other, p.Follows label limits 0 s context other → other = course) ∧
      (course.stop = .capped ↔ course.values.length = limits.maxRepetitions) ∧
      (p.many limits).run label s context =
        ⟨.success course.values course.last, course.final, course.collecting ++ course.stopping⟩
  many1_failure : ∀ (limits : Limits) (label : String) (s : σ) (context : Context ω),
    ((p.many1 limits).run label s context).value.isFailure =
      (p.parse s context).value.isFailure
  /-- The failure of the first item has its reason and place. -/
  many1_failed : ∀ {limits : Limits} {label : String} {s : σ} {context after : Context ω}
    {journal : Journal} {failed : Failed σ},
    p.parse s context = ⟨.failure failed, after, journal⟩ →
      (p.many1 limits).run label s context = ⟨.failure (failed.relabel label), after, journal⟩
  /-- The first value is kept, and is one of those that the cap counts. -/
  many1 : ∀ {limits : Limits} {label : String} {s rest : σ} {context after : Context ω}
    {journal : Journal} {value : α},
    p.parse s context = ⟨.success value rest, after, journal⟩ →
      ∃ course, p.Follows label limits 1 rest after course ∧
        (∀ other, p.Follows label limits 1 rest after other → other = course) ∧
        (p.many1 limits).run label s context =
          ⟨.success (value :: course.values) course.last, course.final,
            journal ++ (course.collecting ++ course.stopping)⟩
  many_lower : ∀ {limits : Limits} {fewer : Nat} (label : String) (s : σ) (context : Context ω),
    fewer ≤ limits.maxRepetitions →
      ∃ values last place,
        ((p.many limits).run label s context).value = .success values last ∧
        ((p.many (limits.withMaxRepetitions fewer)).run label s context).value =
          .success (values.take fewer) place ∧
        p.Passes s context (values.take fewer) place (values.drop fewer) last
  many1_lower : ∀ {limits : Limits} {fewer : Nat} {label : String} {s last : σ}
    {context : Context ω} {values : List α}, fewer ≤ limits.maxRepetitions →
      ((p.many1 limits).run label s context).value = .success values last →
        ∃ place,
          ((p.many1 (limits.withMaxRepetitions fewer)).run label s context).value =
            .success (values.take (max fewer 1)) place ∧
          p.Passes s context (values.take (max fewer 1)) place (values.drop (max fewer 1)) last

end Parser

/-- A repetition collects the values of the one row of successes that its limits allow, and
stops for one reason; with a lower cap it collects the first of them. -/
theorem Parser.repeats (p : Parser σ ω α) : p.Repeats where
  many limits label s context := by
    obtain ⟨course, follows, _⟩ := p.collect_follows label limits 0 s context
    refine ⟨course, follows, fun _ => follows.unique, ?_, p.many_run follows⟩
    have bounded := follows.bounded
    rw [follows.stops.capped_iff]
    omega
  many1_failure limits label s context := by
    rcases came : p.parse s context with ⟨outcome, after, journal⟩
    cases outcome with
    | failure failed =>
        rw [many1_run_failure came]
        rfl
    | success value rest =>
        obtain ⟨course, follows, _⟩ := p.collect_follows label limits 1 rest after
        rw [many1_run_success came follows]
        rfl
  many1_failed came := many1_run_failure came
  many1 {limits label s rest context after journal value} came := by
    obtain ⟨course, follows, _⟩ := p.collect_follows label limits 1 rest after
    exact ⟨course, follows, fun _ => follows.unique, many1_run_success came follows⟩
  many_lower {limits fewer} label s context lower := by
    obtain ⟨course, follows, _⟩ := p.collect_follows label limits 0 s context
    obtain ⟨part, starts, first, further, onward⟩ := follows.lower lower
    rw [Nat.sub_zero] at first onward
    refine ⟨course.values, course.last, part.last, ?_, ?_, ?_⟩
    · rw [p.many_run follows]
    · rw [p.many_run starts, first]
    · rw [← first]
      exact ⟨_, _, _, _, starts.row.unguarded, onward.unguarded⟩
  many1_lower {limits fewer label s last context values} lower success := by
    rcases came : p.parse s context with ⟨outcome, after, journal⟩
    cases outcome with
    | failure failed =>
        rw [many1_run_failure came] at success
        cases success
    | success value rest =>
        obtain ⟨course, follows, _⟩ := p.collect_follows label limits 1 rest after
        obtain ⟨part, starts, first, further, onward⟩ := follows.lower lower
        rw [many1_run_success came follows] at success
        obtain ⟨rfl, rfl⟩ := Outcome.success.inj success
        have counted : max fewer 1 = fewer - 1 + 1 := by omega
        rw [counted, List.take_succ_cons, List.drop_succ_cons]
        refine ⟨part.last, ?_, ?_⟩
        · rw [many1_run_success came starts, first]
        · rw [← first]
          exact ⟨_, _, _, _, .next came Bool.noConfusion starts.row.unguarded, onward.unguarded⟩

end Descent
