import StaticSite.Text.Decimal

/-!
# JSON values

Values of RFC 8259. An object keeps its members in the order of the text, repeated keys included, so
a reader decides what a repetition means.
-/

namespace StaticSite.Json

/-- A JSON value. -/
inductive Value
  | null
  | bool (b : Bool)
  /-- A number, by its text. -/
  | number (text : String)
  | string (s : String)
  /-- A string with half of a surrogate pair, or an object with such a key. The grammar allows it,
  but no text can be read from it. -/
  | garbled
  | array (items : List Value)
  | object (members : List (String × Value))
deriving Repr

namespace Value

/-- A natural number. -/
def nat (n : Nat) : Value := .number (Text.decimal n)

/-- The natural number that a value stands for: a number in digits alone. -/
def nat? : Value → Option Nat
  | .number text =>
    if text.toList ≠ [] ∧ text.toList.all Char.isDigit then
      some (Nat.ofDigitChars 10 text.toList 0)
    else
      none
  | _ => none

/-- The text of a string. -/
def string? : Value → Option String
  | .string s => some s
  | _ => none

/-- The items of an array. -/
def array? : Value → Option (List Value)
  | .array items => some items
  | _ => none

/-- The value of the first member with a key. -/
def member? : Value → String → Option Value
  | .object members, key => members.lookup key
  | _, _ => none

end Value

end StaticSite.Json
