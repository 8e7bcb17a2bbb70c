import StaticSite.Markdown.CharacterReference
import StaticSite.Markdown.Line
import StaticSite.Markdown.RawHtml

/-!
# Where blocks begin

The shapes at the start of a line that begin a block, and those that end one. Each scanner takes the
document behind the indentation of the line.
-/

namespace StaticSite.Markdown

/-- Whether a line is a thematic break: three or more equal marks with blanks between them. -/
def isRule (s : List Char) : Bool :=
  match lineOf s with
  | [] => false
  | c :: rest =>
    (c == '*' || c == '-' || c == '_') && rest.all (fun x => x == c || isIndent x) &&
      2 ≤ rest.count c

/-! ### Headings -/

/-- The level of a heading that begins with number signs. -/
def headingLevel? (s : List Char) : Option Nat :=
  let level := (s.takeWhile (· == '#')).length
  if 1 ≤ level && level ≤ 6 && (s.drop level).head?.all isSpace then some level else none

/-- The number of characters at the end of a heading that are left out: the spaces, and before them
the number signs that close the heading, if there are spaces before these or nothing at all. -/
def headingCut (line : List Char) : Nat :=
  let kept := Text.dropTrailing ' ' line
  let inside := Text.dropTrailing '#' kept
  if inside = [] then line.length
  else if inside.getLast? = some ' ' then line.length - (Text.dropTrailing ' ' inside).length
  else line.length - kept.length

/-- The level that a line of marks under a paragraph makes it a heading of, and the rest behind the
line. -/
def underline? : List Char → Option (Nat × List Char)
  | [] => none
  | c :: rest =>
    let level := if c = '=' then 1 else 2
    if c = '=' || c = '-' then
      (afterBlankLine? (rest.dropWhile (· == c))).map fun rest => (level, rest)
    else none

/-! ### Fences -/

/-- The opening fence of a block of code. -/
structure Fence where
  mark : Char
  length : Nat
deriving DecidableEq, Repr

/-- The fence at the start of a line. Behind backquotes there are none up to the next line feed. -/
def fence? : List Char → Option Fence
  | [] => none
  | mark :: s =>
    let length := 1 + (s.takeWhile (· == mark)).length
    let info := (takeRow (s.dropWhile (· == mark))).1
    if 3 ≤ length && (mark == '~' || (mark == '\x60' && !info.contains '\x60')) then
      some { mark, length }
    else none

/-- The language of the code behind a fence: the first word of what follows the fence up to the next
line feed. -/
def languageOf (info : List Char) : List Char :=
  let info := ((info.dropWhile isBlank).reverse.dropWhile isSpace).reverse
  (unescape info).takeWhile (· != ' ')

/-- The rest behind a closing fence; the end of the document closes every fence. -/
def Fence.closing? (f : Fence) (s : List Char) : Option (List Char) :=
  if s = [] then some []
  else
    let marks := s.takeWhile (· == f.mark)
    if f.length ≤ marks.length then
      afterLineEnd? ((s.drop marks.length).dropWhile (· == ' '))
    else none

/-! ### List items -/

/-- The marker of a list item. -/
structure Marker where
  /-- The bullet, or the mark behind the number. Items with different marks are in different
  lists. -/
  mark : Char
  /-- The number of the item, if it has one. -/
  number? : Option Nat
  width : Nat
deriving DecidableEq, Repr

/-- The marker at the start of a text, with a blank or the end of the line behind it. -/
def marker? (s : List Char) : Option Marker :=
  let digits := s.takeWhile Char.isDigit
  let found? : Option Marker :=
    match s.drop digits.length with
    | [] => none
    | c :: _ =>
      if digits = [] then
        if c = '-' ∨ c = '+' ∨ c = '*' then some { mark := c, number? := none, width := 1 } else none
      else if (c = '.' ∨ c = ')') ∧ digits.length ≤ 9 then
        some { mark := c, number? := some (Nat.ofDigitChars 10 digits 0), width := digits.length + 1 }
      else none
  found?.filter fun m => (s.drop m.width).head?.all fun c => isIndent c || isLineEnd c

/-! ### Paragraphs -/

/-- Whether a list item may end the paragraph before it. It must have a text and may only be the
first of its list, unless the line lacks marks of the paragraph's containers. -/
def itemInterrupts (inPlace : Bool) (s : List Char) : Bool :=
  match marker? s with
  | some m =>
    !inPlace || (m.number?.all (· == 1) && (afterBlankLine? (s.drop m.width)).isNone)
  | none => false

/-- Whether a line ends the paragraph before it. `inPlace` tells whether the line has the marks of
the paragraph's containers. -/
def interrupts (inPlace : Bool) (s : List Char) : Bool :=
  let html := match s with
    | '<' :: s => (interruptingHtml? s).isSome
    | _ => false
  atLineEnd s || isRule s || (headingLevel? s).isSome || (fence? s).isSome || s.head? == some '>' ||
    itemInterrupts inPlace s || html

end StaticSite.Markdown
