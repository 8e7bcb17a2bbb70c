import StaticSite.Text.Unprintable

/-!
# Quoted text

The form in which messages show a text: between double quotes, with short escapes for the quote,
the backslash, line feed, carriage return, tab and NUL, and `\u{hex}` for every other character
without a printed shape. Everything else stands for itself.
-/

namespace StaticSite.Text

/-- How one character is written inside quotes. -/
def quotedChar (c : Char) : List Char :=
  match c with
  | '"' => ['\\', '"']
  | '\\' => ['\\', '\\']
  | '\n' => ['\\', 'n']
  | '\r' => ['\\', 'r']
  | '\t' => ['\\', 't']
  | '\x00' => ['\\', '0']
  | _ =>
    if isUnprintable c then
      ['\\', 'u', '{'] ++ Nat.toDigits 16 c.toNat ++ ['}']
    else
      [c]

/-- The text between double quotes, with escapes. -/
def quoted (s : String) : String :=
  String.ofList ('"' :: s.toList.flatMap quotedChar ++ ['"'])

end StaticSite.Text
