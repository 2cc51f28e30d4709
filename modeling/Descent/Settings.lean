import Descent.Cursor.Text
import Descent.Json
import Descent.Limits

/-!
# Settings as JSON

Limits and text options are written as objects with their fields in order.  They are
read from such objects, in any order and with further fields between, and from arrays
of exactly their fields; a field that is missing, repeated or of another type is an
error.
-/

namespace Descent

/-- A JSON object with already written values. -/
def writeObject (members : List (String × String)) : String :=
  "\x7b" ++ String.intercalate "," (members.map fun member =>
    Text.quoted member.1 ++ ":" ++ member.2) ++ "\x7d"

/-- The fields of a record, read from an object by their names or from an array by
their places. -/
def Json.fields? (names : List String) : Json → Option (List Json)
  | .array items => if items.length = names.length then some items else none
  | .object members =>
      if members.all fun member => member.1.isSome then names.mapM (Json.member? members)
      else none
  | _ => none

namespace Limits

/-- The names of the fields. -/
def fieldNames : List String := ["max_repetitions", "require_progress", "max_recursion_depth"]

/-- Limits as JSON. -/
def toJson (limits : Limits) : String :=
  writeObject (fieldNames.zip
    [toString limits.maxRepetitions, toString limits.requireProgress,
      toString limits.maxRecursionDepth])

/-- Limits from JSON. -/
def ofJson? (text : String) : Option Limits := do
  match ← (← Json.read? text).fields? fieldNames with
  | [repetitions, progress, depth] =>
      return ⟨← repetitions.natural? unlimited, ← progress.bool?, ← depth.natural? unlimited⟩
  | _ => none

end Limits

namespace TextOptions

/-- The names of the fields. -/
def fieldNames : List String := ["case_insensitive"]

/-- Options as JSON. -/
def toJson (options : TextOptions) : String :=
  writeObject (fieldNames.zip [toString options.caseInsensitive])

/-- Options from JSON. -/
def ofJson? (text : String) : Option TextOptions := do
  match ← (← Json.read? text).fields? fieldNames with
  | [caseInsensitive] => return ⟨← caseInsensitive.bool?⟩
  | _ => none

end TextOptions

end Descent
