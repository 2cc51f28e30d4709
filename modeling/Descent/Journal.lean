import Descent.Value

/-!
# Journals

Whatever a parse wants to be known besides its outcome is written to a journal, in
the order in which it happens: what observers saw, how a chain was composed, and
the warnings of the two guards.  Runs of deferred parsers are bracketed by marks,
which show how many are open at any point and are not part of what is reported.
-/

namespace Descent

/-- Why a guard stepped in. -/
inductive Warning where
  /-- A repetition ended because its item succeeded without consuming anything. -/
  | stalled (label item : String) (position : Nat)
  /-- A deferred parser was not run because too many were open. -/
  | tooDeep (label : String) (limit depth position : Nat)
  deriving DecidableEq, Repr

/-- The text of a warning. -/
def Warning.message : Warning → String
  | .stalled label item position =>
      label ++ ": `" ++ item ++ "` matched without consuming input at position " ++
        toString position ++ "; stopping"
  | .tooDeep label limit depth position =>
      label ++ ": recursion limit " ++ toString limit ++ " reached at depth " ++
        toString depth ++ ", position " ++ toString position

/-- What a traced parser did. -/
inductive Trace where
  | matched (label : String) (value : Value) (position : Nat)
  | missed (label failure : String) (position : Nat)

/-- The text of a trace record. -/
def Trace.message : Trace → String
  | .matched label value position =>
      label ++ ": matched " ++ value.describe ++ ", next at " ++ toString position
  | .missed label failure position =>
      label ++ ": " ++ failure ++ " at " ++ toString position

/-- An entry of a journal. -/
inductive Event where
  /-- A watched parser succeeded. -/
  | hit (tag : String) (value : Value) (position : Nat)
  /-- A watched parser failed. -/
  | miss (tag failure : String) (position : Nat)
  /-- A chain was looked at while it was composed. -/
  | composed (text : String)
  | warning (warning : Warning)
  | trace (trace : Trace)
  /-- A deferred parser starts to run while so many others are open. -/
  | entered (label : String) (depth : Nat)
  /-- A deferred parser has run. -/
  | exited (label : String)

/-- A journal, oldest entry first. -/
abbrev Journal := List Event

/-- Whether an entry is reported to the user of the library. -/
def Event.isReported : Event → Bool
  | .entered _ _ | .exited _ => false
  | _ => true

/-- The entries that are reported. -/
def Journal.reported (journal : Journal) : Journal := journal.filter Event.isReported

/-- How many more deferred parsers are open after an entry than before it. -/
def Event.opening : Event → Int
  | .entered _ _ => 1
  | .exited _ => -1
  | _ => 0

/-- How many more deferred parsers are open after a journal than before it. -/
def Journal.opening : Journal → Int
  | [] => 0
  | event :: later => event.opening + Journal.opening later

theorem Journal.opening_append (first second : Journal) :
    Journal.opening (first ++ second) = Journal.opening first + Journal.opening second := by
  induction first with
  | nil => simp [Journal.opening]
  | cons event later ih => simp only [List.cons_append, Journal.opening, ih, Int.add_assoc]

/-- A value made while writing to a journal. -/
structure Logged (α : Type) where
  value : α
  journal : Journal

namespace Logged

variable {α β : Type}

/-- A value made without writing anything. -/
@[inline] def pure (value : α) : Logged α := ⟨value, []⟩

/-- Makes a second value from the first and puts both journals together. -/
@[inline] def bind (first : Logged α) (next : α → Logged β) : Logged β :=
  let second := next first.value
  ⟨second.value, first.journal ++ second.journal⟩

instance : Monad Logged where
  pure := pure
  bind := bind

/-- Writes one entry. -/
def write (event : Event) : Logged Unit := ⟨(), [event]⟩

@[simp] theorem value_pure (value : α) : (Pure.pure value : Logged α).value = value := rfl

@[simp] theorem journal_pure (value : α) : (Pure.pure value : Logged α).journal = [] := rfl

@[simp] theorem value_bind (first : Logged α) (next : α → Logged β) :
    (first >>= next).value = (next first.value).value := rfl

@[simp] theorem journal_bind (first : Logged α) (next : α → Logged β) :
    (first >>= next).journal = first.journal ++ (next first.value).journal := rfl

end Logged

end Descent
