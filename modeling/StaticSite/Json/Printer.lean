import StaticSite.Json.Value

/-!
# Printing JSON

The indented form: two spaces for each level, one item or member to a line, an empty array or object
as its two brackets. Strings are written in full; only the quote, the backslash and the control
characters are escaped.
-/

namespace StaticSite.Json

/-- How one character is written inside a string. -/
def escapeChar (c : Char) : List Char :=
  match c with
  | '"' => ['\\', '"']
  | '\\' => ['\\', '\\']
  | '\n' => ['\\', 'n']
  | '\r' => ['\\', 'r']
  | '\t' => ['\\', 't']
  | '\x08' => ['\\', 'b']
  | '\x0c' => ['\\', 'f']
  | _ =>
    if c.toNat < 0x20 then
      ['\\', 'u', '0', '0', Nat.digitChar (c.toNat / 16), Nat.digitChar (c.toNat % 16)]
    else
      [c]

/-- A string with its quotes. -/
def quote (s : String) : List Char :=
  '"' :: s.toList.flatMap escapeChar ++ ['"']

/-- The break before a line at the given depth. -/
def newline (depth : Nat) : List Char :=
  '\n' :: List.replicate (2 * depth) ' '

mutual

/-- A value as it stands at the given depth. -/
def Value.print (depth : Nat) : Value → List Char
  | .null => ['n', 'u', 'l', 'l']
  | .bool true => ['t', 'r', 'u', 'e']
  | .bool false => ['f', 'a', 'l', 's', 'e']
  | .number text => text.toList
  | .string s => quote s
  | .garbled => ['"', '\\', 'u', 'd', '8', '0', '0', '"']
  | .array [] => ['[', ']']
  | .array (item :: rest) =>
    ['['] ++ newline (depth + 1) ++ item.print (depth + 1) ++ Value.printItems (depth + 1) rest ++
      newline depth ++ [']']
  | .object [] => ['{', '}']
  | .object ((key, value) :: rest) =>
    ['{'] ++ newline (depth + 1) ++ quote key ++ [':', ' '] ++ value.print (depth + 1) ++
      Value.printMembers (depth + 1) rest ++ newline depth ++ ['}']

/-- Further items, each after a comma and a break. -/
def Value.printItems (depth : Nat) : List Value → List Char
  | [] => []
  | item :: rest => ',' :: newline depth ++ item.print depth ++ Value.printItems depth rest

/-- Further members, each after a comma and a break. -/
def Value.printMembers (depth : Nat) : List (String × Value) → List Char
  | [] => []
  | (key, value) :: rest =>
    ',' :: newline depth ++ quote key ++ [':', ' '] ++ value.print depth ++
      Value.printMembers depth rest

end

/-- The indented text of a value. -/
def Value.pretty (v : Value) : String :=
  String.ofList (v.print 0)

end StaticSite.Json
