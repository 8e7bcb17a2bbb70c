import StaticSite.Html.Entity
import StaticSite.Text.Hexadecimal
import StaticSite.Text.Punctuation

/-!
# Character references and escapes

A character may be written by its name (`&copy;`), by its number in decimal (`&#169;`) or
hexadecimal digits (`&#xa9;`), and ASCII punctuation after a backslash. A decimal number has at most
seven digits and a hexadecimal one at most six. The number 0 and every number that belongs to no
character stand for the replacement character.
-/

namespace StaticSite.Markdown

/-- The character that a reference by number stands for. -/
def numberedChar (n : Nat) : Char :=
  if n = 0 then '\uFFFD' else (Text.charOfNumber? n).getD '\uFFFD'

/-- The end of a numeric reference: digits, at most `limit` of them, and the semicolon. -/
def finishNumber? (limit : Nat) (isDigit : Char → Bool) (s : List Char) :
    Option (List Char × List Char) :=
  let digits := (s.take limit).takeWhile isDigit
  match digits, s.drop digits.length with
  | _ :: _, ';' :: rest => some (digits, rest)
  | _, _ => none

/-- A character reference after its ampersand: what it stands for, and the rest. -/
def characterReference? : List Char → Option (List Char × List Char)
  | '#' :: 'x' :: s | '#' :: 'X' :: s => do
    let (digits, rest) ← finishNumber? 6 (fun c => (Text.hexDigit? c).isSome) s
    return ([numberedChar (← Text.hexNumber? digits)], rest)
  | '#' :: s => do
    let (digits, rest) ← finishNumber? 7 Char.isDigit s
    return ([numberedChar (Nat.ofDigitChars 10 digits 0)], rest)
  | s =>
    let name := s.takeWhile Char.isAlphanum
    match s.drop name.length with
    | ';' :: rest => (Html.namedEntity? (String.ofList name)).map fun text => (text.toList, rest)
    | _ => none

/-- Unescaping with fuel for as many characters. -/
def unescapeFrom : Nat → List Char → List Char
  | fuel + 1, '\\' :: c :: rest =>
    if Text.isAsciiPunctuation c then c :: unescapeFrom fuel rest
    else '\\' :: unescapeFrom fuel (c :: rest)
  | fuel + 1, '&' :: rest =>
    match characterReference? rest with
    | some (text, rest) => text ++ unescapeFrom fuel rest
    | none => '&' :: unescapeFrom fuel rest
  | fuel + 1, c :: rest =>
    if c = '\r' then unescapeFrom fuel rest else c :: unescapeFrom fuel rest
  | _, s => s

/-- A text with its escapes and character references replaced by what they stand for. A carriage
return is left out, so that a line ends with a line feed. -/
def unescape (s : List Char) : List Char := unescapeFrom s.length s

end StaticSite.Markdown
