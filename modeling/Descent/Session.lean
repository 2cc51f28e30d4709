import Descent.Grammar.Rules
import Descent.Report

/-!
# Sessions

A session keeps cursors in numbered registers and carries out commands on them.
Cursors that come from one input share its state; every other command leaves the
cursors that it starts from as they are.
-/

namespace Descent

variable {σ ι κ ω : Type}

/-- A cursor with the number of the input that it belongs to. -/
structure Register (σ : Type) where
  input : Nat
  cursor : σ

/-- The shared states of the inputs, the registers, and the number of open deferred
parsers. -/
structure Session (σ ω : Type) where
  inputs : Array ω
  registers : Array (Register σ)
  depth : Nat

/-- What a session can be asked to do; numbers name registers. -/
inductive Command (σ ι κ ω : Type) where
  /-- Adds an input and stores its first cursor. -/
  | begin (source : Source σ ω)
  | copy (register : Nat)
  | foldCase (register : Nat)
  | take (register : Nat) (item : ι)
  | takeSymbol (register : Nat) (accept : Char → Bool)
  | parse (register : Nat) (grammar : Grammar ι κ)
  | next (register : Nat)
  | atEnd (register : Nat)
  | position (register : Nat)
  | rest (register : Nat)
  | buffered (register : Nat)
  | options (register : Nat)
  | same (first second : Nat)
  | describe (register : Nat)

/-- What a session answers; a command that stores a cursor names the register. -/
inductive Answer (σ : Type) where
  | begun (position register : Nat)
  | stored (register : Nat)
  | taken (value : Value) (position register : Nat)
  | parsed (report : Report σ) (register : Nat)
  | value (value : Value)
  | flag (value : Bool)
  | count (value : Nat)
  | text (value : String)
  | options (value : TextOptions)
  /-- The register is empty, or its cursor does not answer such a question. -/
  | unavailable

namespace Session

/-- No inputs and no registers. -/
def empty : Session σ ω := ⟨#[], #[], 0⟩

/-- Stores a cursor in the next register. -/
def store (session : Session σ ω) (input : Nat) (cursor : σ) : Nat × Session σ ω :=
  (session.registers.size,
    { session with registers := session.registers.push ⟨input, cursor⟩ })

/-- Carries out a computation in the shared state of an input. -/
def within {α : Type} (session : Session σ ω) (input : Nat) (run : Run ω α) :
    Option (Step ω α × Session σ ω) :=
  session.inputs[input]?.map fun shared =>
    let step := run ⟨shared, session.depth⟩
    (step, { session with
      inputs := session.inputs.setIfInBounds input step.context.shared
      depth := step.context.depth })

variable [Inspectable σ ι ω] [Item ι]

/-- Carries out a query on the cursor of a register and answers by a function of the
result. -/
def inquire {α : Type} (session : Session σ ω) (register : Nat) (query : σ → Query ω α)
    (answer : α → Answer σ) : Answer σ × Session σ ω :=
  match session.registers[register]? with
  | none => (.unavailable, session)
  | some entry =>
      match session.within entry.input (Run.ask (query entry.cursor)) with
      | none => (.unavailable, session)
      | some (step, session) => (answer step.value, session)

/-- Answers from the cursor of a register alone. -/
def look (session : Session σ ω) (register : Nat) (answer : σ → Option (Answer σ)) :
    Answer σ × Session σ ω :=
  (((session.registers[register]?.bind fun entry => answer entry.cursor).getD .unavailable),
    session)

/-- Carries out a query that may consume an item, and stores the cursor after it. -/
def consume (session : Session σ ω) (register : Nat)
    (query : σ → Query ω (Option (ι × σ))) : Answer σ × Session σ ω :=
  match session.registers[register]? with
  | none => (.unavailable, session)
  | some entry =>
      match session.within entry.input (Run.ask (query entry.cursor)) with
      | none => (.unavailable, session)
      | some (step, session) =>
          match step.value with
          | none => (.value .absent, session)
          | some (item, cursor) =>
              let (register, session) := session.store entry.input cursor
              (.taken (Item.toValue item) (Cursor.position cursor) register, session)

/-- Carries out one command. -/
def step [Leaves κ σ ω] (rules : Rules ι κ) (session : Session σ ω) :
    Command σ ι κ ω → Answer σ × Session σ ω
  | .begin source =>
      let input := session.inputs.size
      let session := { session with inputs := session.inputs.push source.shared }
      let (register, session) := session.store input source.cursor
      (.begun (Cursor.position source.cursor) register, session)
  | .copy register =>
      match session.registers[register]? with
      | none => (.unavailable, session)
      | some entry =>
          let (copied, session) := session.store entry.input entry.cursor
          (.stored copied, session)
  | .foldCase register =>
      match session.registers[register]? with
      | none => (.unavailable, session)
      | some entry =>
          match Inspectable.foldingCase? entry.cursor with
          | none => (.unavailable, session)
          | some cursor =>
              let (stored, session) := session.store entry.input cursor
              (.stored stored, session)
  | .take register item => session.consume register (Cursor.take? · item)
  | .takeSymbol register accept =>
      match (Inspectable.symbol? : Option (σ → _)) with
      | none => (.unavailable, session)
      | some query => session.consume register (query · accept)
  | .parse register grammar =>
      match session.registers[register]? with
      | none => (.unavailable, session)
      | some entry =>
          let built : Logged (Parser σ ω Value) := grammar.parser rules
          match session.within entry.input (built.value.examine entry.cursor) with
          | none => (.unavailable, session)
          | some (step, session) =>
              let report := { step.value with
                events := built.journal.reported ++ step.value.events }
              let (stored, session) := session.store entry.input report.outcome.remaining
              (.parsed report stored, session)
  | .next register =>
      session.inquire register Cursor.peek? fun item =>
        .value ((item.map Item.toValue).getD .absent)
  | .atEnd register => session.inquire register Cursor.atEnd .flag
  | .position register => session.look register fun s => some (.count (Cursor.position s))
  | .rest register =>
      session.look register fun s => (Inspectable.rest? s).map .value
  | .buffered register =>
      session.inquire register (fun _ shared => (Inspectable.buffered? σ shared, shared))
        fun count => (count.map Answer.count).getD .unavailable
  | .options register =>
      session.look register fun s => (Inspectable.options? s).map .options
  | .same first second =>
      match session.registers[first]?, session.registers[second]? with
      | some left, some right =>
          (.flag (Inspectable.same (left.input == right.input) left.cursor right.cursor),
            session)
      | _, _ => (.unavailable, session)
  | .describe register => session.inquire register Inspectable.describe .text

/-- Carries out commands in order. -/
def run [Leaves κ σ ω] (rules : Rules ι κ) :
    Session σ ω → List (Command σ ι κ ω) → List (Answer σ)
  | _, [] => []
  | session, command :: later =>
      let (answer, session) := session.step rules command
      answer :: run rules session later

end Session

end Descent
