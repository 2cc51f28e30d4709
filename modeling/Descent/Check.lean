import Descent.Value
import Descent.Text.Integer

/-!
# Checks on parsed values

A check accepts a value, possibly replacing it, or says why it refuses it.
-/

namespace Descent

/-- What a fallible conversion asks of a value. -/
inductive Check where
  | integer (range : Text.IntegerRange)
  | atMost (bound : Int)
  | nonempty
  | reject (reason : String)

/-- Why a check refuses a value. -/
inductive Refusal where
  | notInteger (error : Text.IntegerError)
  | exceeds (sum bound : Int)
  | noText
  | rejected (reason : String)

/-- The text reported for a refusal. -/
def Refusal.message : Refusal → String
  | .notInteger error => error.message
  | .exceeds sum bound => toString sum ++ " exceeds " ++ toString bound
  | .noText => ""
  | .rejected reason => reason

namespace Check

/-- Runs a check. -/
def run : Check → Value → Except Refusal Value
  | .integer range, value =>
      match Text.readInteger range value.concat.toList with
      | .ok n => .ok (.int n)
      | .error error => .error (.notInteger error)
  | .atMost bound, value =>
      if bound < value.sum then .error (.exceeds value.sum bound) else .ok value
  | .nonempty, value =>
      if value.concat.isEmpty then .error .noText else .ok value
  | .reject reason, _ => .error (.rejected reason)

end Check

end Descent
