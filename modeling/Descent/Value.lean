import Descent.Text.Quoted

/-!
# Values of dynamic parsers

A grammar given as data cannot fix the type of what it yields, so all its parsers
yield a `Value`: text, numbers, optional values, lists, and tuples of at least two
parts.
-/

namespace Descent

/-- What a parser built from a grammar yields.  A binary64 number is kept as its
bits. -/
inductive Value where
  | absent
  | present (value : Value)
  | bool (value : Bool)
  | int (value : Int)
  | float (bits : UInt64)
  | text (value : String)
  | list (items : List Value)
  | tuple (parts : List Value)

namespace Value

mutual

/-- Whether two values are the same. -/
def beq : Value → Value → Bool
  | .absent, .absent => true
  | .present first, .present second => beq first second
  | .bool first, .bool second => first == second
  | .int first, .int second => first == second
  | .float first, .float second => first == second
  | .text first, .text second => first == second
  | .list first, .list second => beqAll first second
  | .tuple first, .tuple second => beqAll first second
  | _, _ => false

/-- Whether several values are the same, one by one. -/
def beqAll : List Value → List Value → Bool
  | [], [] => true
  | first :: rest, second :: others => beq first second && beqAll rest others
  | _, _ => false

end

mutual

theorem beq_iff : ∀ first second : Value, first.beq second = true ↔ first = second
  | .absent, second => by cases second <;> simp [beq]
  | .present first, second => by cases second <;> simp [beq, beq_iff first]
  | .bool _, second => by cases second <;> simp [beq]
  | .int _, second => by cases second <;> simp [beq]
  | .float _, second => by cases second <;> simp [beq]
  | .text _, second => by cases second <;> simp [beq]
  | .list first, second => by cases second <;> simp [beq, beqAll_iff first]
  | .tuple first, second => by cases second <;> simp [beq, beqAll_iff first]

theorem beqAll_iff : ∀ first second : List Value, beqAll first second = true ↔ first = second
  | [], second => by cases second <;> simp [beqAll]
  | first :: rest, second => by
      cases second <;> simp [beqAll, beq_iff first, beqAll_iff rest]

end

instance : DecidableEq Value := fun first second =>
  decidable_of_iff (first.beq second = true) (beq_iff first second)

/-- A pair. -/
def pair (first second : Value) : Value := .tuple [first, second]

/-- An optional value. -/
def ofOption : Option Value → Value
  | none => .absent
  | some value => .present value

/-- The sixteen hexadecimal digits of a binary64 number. -/
def bitsText (bits : UInt64) : String :=
  let digits := Nat.toDigits 16 bits.toNat
  String.ofList (List.replicate (16 - digits.length) '0' ++ digits)

mutual

/-- The diagnostic text of a value. -/
def describe : Value → String
  | .absent => "None"
  | .present value => "Some(" ++ describe value ++ ")"
  | .bool value => if value then "true" else "false"
  | .int value => toString value
  | .float bits => "f64:" ++ bitsText bits
  | .text value => Text.quoted value
  | .list items => Text.bracketed (describeAll items)
  | .tuple parts => Text.parenthesized (describeAll parts)

/-- The diagnostic texts of several values. -/
def describeAll : List Value → List String
  | [] => []
  | value :: rest => describe value :: describeAll rest

end

mutual

/-- All strings inside a value, depth first. -/
def strings : Value → List String
  | .text value => [value]
  | .present value => strings value
  | .list items => stringsOfAll items
  | .tuple parts => stringsOfAll parts
  | _ => []

/-- All strings inside several values, in order. -/
def stringsOfAll : List Value → List String
  | [] => []
  | value :: rest => strings value ++ stringsOfAll rest

end

mutual

/-- All integers inside a value, depth first. -/
def integers : Value → List Int
  | .int value => [value]
  | .present value => integers value
  | .list items => integersOfAll items
  | .tuple parts => integersOfAll parts
  | _ => []

/-- All integers inside several values, in order. -/
def integersOfAll : List Value → List Int
  | [] => []
  | value :: rest => integers value ++ integersOfAll rest

end

/-- The strings inside a value put together. -/
def concat (value : Value) : String := String.join (strings value)

/-- An integer reduced to the range of sixty-four signed bits. -/
def wrap (n : Int) : Int := Int.bmod n UInt64.size

/-- The sum of the integers inside a value, in sixty-four bits. -/
def sum (value : Value) : Int := wrap ((integers value).foldr (· + ·) 0)

/-- How many items, parts or characters a value has; -1 if it has none of these. -/
def length : Value → Int
  | .list items => items.length
  | .tuple parts => parts.length
  | .text value => value.length
  | _ => -1

/-- The parts of a left-nested chain of pairs of the given width. -/
def chainParts? : Nat → Value → Option (List Value)
  | 0, _ => none
  | 1, value => some [value]
  | width + 2, .tuple [front, last] =>
      (chainParts? (width + 1) front).map (· ++ [last])
  | _ + 2, _ => none

end Value

/-- What `map` does to a value. -/
inductive Transform where
  | concat
  | length
  | sum
  | increment
  | first
  | second
  | isPresent
  | constant (value : Value)
  | flatten (width : Nat)

namespace Transform

/-- The transformed value.  `first` and `second` look into pairs only, `flatten`
into left-nested chains of its width only; anything else passes unchanged. -/
def apply : Transform → Value → Value
  | .concat, value => .text value.concat
  | .length, value => .int value.length
  | .sum, value => .int value.sum
  | .increment, value => .int (Value.wrap (value.sum + 1))
  | .first, .tuple [left, _] => left
  | .second, .tuple [_, right] => right
  | .isPresent, .present _ => .bool true
  | .isPresent, _ => .bool false
  | .constant value, _ => value
  | .flatten width, value =>
      match value.chainParts? width with
      | some parts => .tuple parts
      | none => value
  | _, value => value

end Transform

end Descent
