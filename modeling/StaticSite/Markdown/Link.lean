import StaticSite.Markdown.CharacterReference
import StaticSite.Markdown.RawHtml
import StaticSite.Text.CaseFold

/-!
# The parts of links

Destinations, titles and labels, and addresses in angle brackets. Each scanner gives back what it has
read and the rest.

Labels are compared without regard to case and to the width of the blanks in them.
-/

namespace StaticSite.Markdown

/-- Where a link leads, and the text that explains it. -/
structure Target where
  destination : List Char
  title : List Char := []
deriving DecidableEq, Repr

/-- The number of bytes in a target. -/
def Target.size (t : Target) : Nat :=
  (String.ofList (t.destination ++ t.title)).utf8ByteSize

/-! ### Destinations -/

/-- A destination after its `<`, as it is written. -/
def angledDestination? : List Char → Option (List Char × List Char)
  | [] => none
  | '\\' :: c :: rest =>
    if Text.isAsciiPunctuation c then
      (angledDestination? rest).map fun r => ('\\' :: c :: r.1, r.2)
    else (angledDestination? (c :: rest)).map fun r => ('\\' :: r.1, r.2)
  | c :: rest =>
    if c = '>' then some ([], rest)
    else if c = '<' || isLineEnd c then none
    else (angledDestination? rest).map fun r => (c :: r.1, r.2)

/-- The number of parentheses that may be open when the next one opens. -/
def parenthesisLimit : Nat := 32

/-- A destination without angle brackets, as it is written: up to a blank or an unmatched closing
parenthesis. `depth` parentheses are open. -/
def plainDestination? : Nat → List Char → Option (List Char × List Char)
  | depth, [] => if depth = 0 then some ([], []) else none
  | depth, '\\' :: c :: rest =>
    if Text.isAsciiPunctuation c then
      (plainDestination? depth rest).map fun r => ('\\' :: c :: r.1, r.2)
    else (plainDestination? depth (c :: rest)).map fun r => ('\\' :: r.1, r.2)
  | depth, c :: rest =>
    if c.toNat ≤ 0x20 then if depth = 0 then some ([], c :: rest) else none
    else if c = '(' then
      if parenthesisLimit < depth then none
      else (plainDestination? (depth + 1) rest).map fun r => (c :: r.1, r.2)
    else if c = ')' then
      match depth with
      | 0 => some ([], c :: rest)
      | depth + 1 => (plainDestination? depth rest).map fun r => (c :: r.1, r.2)
    else (plainDestination? depth rest).map fun r => (c :: r.1, r.2)

/-- A destination, as it is written. -/
def destination? : List Char → Option (List Char × List Char)
  | '<' :: s => angledDestination? s
  | s => plainDestination? 0 s

/-! ### Titles -/

/-- The character that closes a title which begins with a character. -/
def titleEnd? : Char → Option Char
  | '"' => some '"'
  | '\'' => some '\''
  | '(' => some ')'
  | _ => none

/-- What stands on the next line of a title: the indentation goes, and a backslash too if it escapes
the first character. -/
def titleLine (s : List Char) : List Char :=
  match s.dropWhile isIndent with
  | '\\' :: c :: rest => if Text.isAsciiPunctuation c then c :: rest else '\\' :: c :: rest
  | s => s

/-- A title up to `close` in the parentheses of a link, with escapes and character references
resolved; `refused` may not occur in it. There is fuel for as many characters. -/
def titleUpTo? (close refused : Char) : Nat → List Char → Option (List Char × List Char)
  | fuel + 1, c :: rest =>
    let goOn (text rest : List Char) :=
      (titleUpTo? close refused fuel rest).map fun r => (text ++ r.1, r.2)
    if c = close then some ([], rest)
    else if c = refused then none
    else if c = '\n' || (c = '\r' && rest.head? != some '\n') then goOn ['\n'] (titleLine rest)
    else
      match c, rest with
      | '&', _ =>
        match characterReference? rest with
        | some (text, rest) => goOn text rest
        | none => goOn ['&'] rest
      | '\\', e :: behind => if Text.isAsciiPunctuation e then goOn [e] behind else goOn ['\\'] rest
      | _, _ => goOn [c] rest
  | _, _ => none

/-- The title of a link in double or single quotes or in parentheses. -/
def title? : List Char → Option (List Char × List Char)
  | [] => none
  | c :: s =>
    match titleEnd? c with
    | some close => titleUpTo? close c s.length s
    | none => none

/-- The rest after blanks with at most one line end among them. -/
def skipSeparator (s : List Char) : List Char :=
  let s := s.dropWhile isBlank
  ((afterLineEnd? s).getD s).dropWhile isBlank

/-- The target of a link in parentheses, after the opening one. -/
def parenthesisedTarget? (s : List Char) : Option (Target × List Char) := do
  let (written, s) ← destination? (skipSeparator s)
  let s := skipSeparator s
  let (title, s) := (title? s).getD ([], s)
  match skipSeparator s with
  | ')' :: rest => some ({ destination := unescape written, title }, rest)
  | _ => none

/-! ### Labels -/

/-- The rest after a run of blanks in a label, and the number of its characters. At most one line
end may be among them, and `next` tells what the line behind it brings. -/
def afterLabelBlanks? (next : List Char → Option (List Char)) (broken : Bool) :
    Nat → List Char → Option (Nat × List Char)
  | fuel + 1, c :: rest =>
    if isBlank c then (afterLabelBlanks? next broken fuel rest).map fun r => (r.1 + 1, r.2)
    else if isLineEnd c then
      if broken then none
      else do
        let line ← next (← afterLineEnd? (c :: rest))
        let (n, rest) ← afterLabelBlanks? next true fuel line
        return (n + 1, rest)
    else some (0, c :: rest)
  | _, s => some (0, s)

/-- What a character counts towards the size of a label: nothing in the ASCII range, and its bytes
beyond. -/
def labelWeight (c : Char) : Nat :=
  if c.toNat < 0x80 then 0 else c.utf8Size

/-- A label with single blanks between its words, its size, and the rest behind its bracket. -/
def labelText? (next : List Char → Option (List Char)) :
    Nat → List Char → Option (List Char × Nat × List Char)
  | fuel + 1, c :: rest =>
    let goOn (text : List Char) (size : Nat) (rest : List Char) :=
      (labelText? next fuel rest).map fun r => (text ++ r.1, size + r.2.1, r.2.2)
    if c = ']' then some ([], 0, rest)
    else if c = '[' then none
    else if isSpace c then
      match afterLabelBlanks? next false (fuel + 1) (c :: rest) with
      | some (n, rest) => goOn [' '] n rest
      | none => none
    else
      match c, rest with
      | '\\', e :: behind => goOn ['\\', e] (2 + (e.utf8Size - 1)) behind
      | _, _ => goOn [c] (labelWeight c) rest
  | _, _ => none

/-- The size that a label may not reach. -/
def labelLimit : Nat := 1000

/-- The form in which labels are compared. -/
def normalLabel (s : List Char) : List Char :=
  Text.foldCase (Text.dropTrailing ' ' (s.dropWhile (· == ' ')))

/-- A label after its opening bracket, in the form in which it is compared. `next` tells what the
line behind a line end brings, and a label is not blank. -/
def label? (next : List Char → Option (List Char)) (s : List Char) :
    Option (List Char × List Char) :=
  match labelText? next (s.length + 1) s with
  | some (text, size, rest) =>
    if size < labelLimit && !text.all (· == ' ') then some (normalLabel text, rest) else none
  | none => none

/-! ### Addresses in angle brackets -/

/-- Whether a text is an absolute address: a scheme of two to thirty-two characters, a colon, and
no blank or angle bracket behind it. -/
def isAddress (s : List Char) : Bool :=
  let scheme := s.takeWhile fun c => c.isAlphanum || c == '.' || c == '-' || c == '+'
  match s.drop scheme.length with
  | ':' :: rest =>
    scheme.head?.any Char.isAlpha && 2 ≤ scheme.length && scheme.length ≤ 32 &&
      rest.all fun c => 0x20 < c.toNat && c != '<'
  | _ => false

/-- The characters of a mail address before the `@`. -/
def isMailChar (c : Char) : Bool :=
  c.isAlphanum || ".!#$%&'*+/=?^_\x60\x7b|\x7d~-".toList.contains c

/-- Whether a text is one label of a domain name. -/
def isDomainLabel (s : List Char) : Bool :=
  s != [] && s.length ≤ 63 && s.all (fun c => c.isAlphanum || c == '-') &&
    s.head? != some '-' && s.getLast? != some '-'

/-- Whether a text is a mail address. -/
def isMailAddress (s : List Char) : Bool :=
  let name := s.takeWhile isMailChar
  match s.drop name.length with
  | '@' :: domain => name != [] && (Text.splitAt '.' domain).all isDomainLabel
  | _ => false

/-- The target and the text of an address, after its `<`. -/
def address? (s : List Char) : Option (Target × List Char × List Char) :=
  let text := s.takeWhile (· != '>')
  match s.drop text.length with
  | _ :: rest =>
    if isAddress text then some ({ destination := text }, text, rest)
    else if isMailAddress text then
      some ({ destination := "mailto:".toList ++ text }, text, rest)
    else none
  | [] => none

end StaticSite.Markdown
