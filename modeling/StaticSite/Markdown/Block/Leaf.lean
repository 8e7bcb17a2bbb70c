import StaticSite.Markdown.Block.Container

/-!
# Blocks without blocks inside

Code, raw HTML and paragraphs. Each reader takes the open containers from the outside in and the
document at the block's first line, reads as many lines as belong to the block, and gives back the
document from the next line on. Fuel for as many lines as the document has characters is enough.

The lines of code and raw HTML end with line feeds only; a carriage return before the line feed is
left out.
-/

namespace StaticSite.Markdown

/-- A line of code or raw HTML behind `lead` columns of indentation. -/
def rowText (lead : Nat) (row : List Char) : List Char :=
  let row :=
    match row.reverse with
    | c :: '\r' :: before => before.reverse ++ [c]
    | _ => row
  List.replicate lead ' ' ++ row

/-! ### Code -/

/-- What a reader of code has found. -/
structure CodeRead where
  text : List Char
  rest : List Char
  /-- Whether the last line is blank. -/
  afterBlank : Bool := false
deriving Repr

/-- The rows of code by indentation, the last first, with the blank ones marked. The code ends before
a line that lacks a container's mark or is indented by less than four columns. -/
def indentedRows (containers : List Container) :
    Nat → Nat → Bool → List Char → List (Bool × List Char) → List (Bool × List Char) × List Char
  | 0, _, _, s, rows => (rows, s)
  | fuel + 1, lead, blank, s, rows =>
    let (row, rest) := takeRow s
    let rows := (blank, rowText lead row) :: rows
    let (inPlace, p) := enter containers rest
    let (missing, p) := p.skip 4
    if !inPlace || (missing ≠ 0 && !atLineEnd p.rest) || p.rest = [] then (rows, rest)
    else indentedRows containers fuel p.lead (afterBlankLine? p.rest).isSome p.rest rows

/-- Code by indentation, at a place behind its first four columns. The blank lines at its end are
left out. -/
def readIndented (containers : List Container) (p : Place) : CodeRead :=
  let (rows, rest) := indentedRows containers (p.rest.length + 1) p.lead false p.rest []
  let kept := rows.dropWhile Prod.fst
  { text := (kept.reverse.map Prod.snd).flatten, rest, afterBlank := rows.head?.any Prod.fst }

/-- Code up to its closing fence, whose opening one is indented by `indent` columns. The code ends
also before a line that lacks a container's mark. -/
def fencedRows (containers : List Container) (f : Fence) (indent : Nat) :
    Nat → List Char → List Char × List Char
  | 0, s => ([], s)
  | fuel + 1, s =>
    let (inPlace, p) := enter containers s
    let p := (p.skip indent).2
    let (missing, q) := p.skip (4 - indent)
    let closing? := if missing = 0 then none else f.closing? q.rest
    if !inPlace then ([], s)
    else
      match closing? with
      | some rest => ([], rest)
      | none =>
        let (row, rest) := takeRow p.rest
        let (text, rest) := fencedRows containers f indent fuel rest
        (rowText p.lead row ++ text, rest)

/-- Code behind a fence: its language, the code, and the rest of the document. -/
def readFenced (containers : List Container) (f : Fence) (indent : Nat) (s : List Char) :
    List Char × List Char × List Char :=
  let (info, rest) := takeRow (s.drop f.length)
  (languageOf info, fencedRows containers f indent (rest.length + 1) rest)

/-! ### Raw HTML -/

/-- Whether a block of raw HTML ends before the line at a place, when `row` is the line before. -/
def HtmlEnd.reached (e : HtmlEnd) (row : List Char) (p : Place) : Bool :=
  match e with
  | .withText text => Text.occurs text row
  | .beforeBlank => (afterBlankLine? p.rest).isSome

/-- A block of raw HTML. It ends also before a line that lacks a container's mark. -/
def htmlRows (containers : List Container) (e : HtmlEnd) :
    Nat → Nat → List Char → List Char × List Char
  | 0, _, s => ([], s)
  | fuel + 1, lead, s =>
    let (row, rest) := takeRow s
    let (inPlace, p) := enter containers rest
    if !inPlace || e.reached row p || p.rest = [] then (rowText lead row, rest)
    else
      let (text, rest) := htmlRows containers e fuel p.lead p.rest
      (rowText lead row ++ text, rest)

/-- A block of raw HTML behind `indent` columns, and the rest of the document. -/
def readHtml (containers : List Container) (e : HtmlEnd) (indent : Nat) (s : List Char) :
    List Char × List Char :=
  htmlRows containers e (s.length + 1) indent s

/-! ### Paragraphs -/

/-- What a reader of paragraphs has found. -/
structure ParagraphRead where
  content : Prose
  /-- The level of the heading that the paragraph is made by a line of marks under it. -/
  level? : Option Nat := none
  rest : List Char
deriving Repr

/-- A line of a paragraph with its line end, in front of the lines behind it. -/
def ParagraphRead.cons (start : LineStart) (line : List Char) (p : ParagraphRead) :
    ParagraphRead :=
  { p with
    content :=
      { p.content with text := line ++ p.content.text, starts := start :: p.content.starts } }

/-- The line end at the front of a text. -/
def lineEndOf (s : List Char) : List Char :=
  s.take (if ['\r', '\n'].isPrefixOf s then 2 else 1)

/-- A paragraph, whose first line stands behind `start`. A line goes on with it that does not begin a
block, also one that lacks marks of the containers, and every line indented by four columns or
more. -/
def readParagraph (containers : List Container) : Nat → LineStart → List Char → ParagraphRead
  | 0, start, s => { content := { text := [], starts := [start] }, rest := s }
  | fuel + 1, start, s =>
    let line := lineOf s
    let last : Prose := { text := line, starts := [start] }
    let next := afterLine s
    let (n, p) := enterAll { rest := next } containers
    let inPlace := n == containers.length
    let (missing, q) := p.skip 4
    let underline? := if missing ≠ 0 && inPlace then underline? q.rest else none
    match underline? with
    | some (level, rest) => { content := last, level? := some level, rest }
    | none =>
      if missing ≠ 0 && interrupts inPlace q.rest || atLineEnd (q.rest.dropWhile isIndent) then
        { content := last, rest := next }
      else
        let short := (containers[n]?).any Container.isList
        (readParagraph containers fuel (.before next p short) p.rest).cons start
          (line ++ lineEndOf (s.drop line.length))

end StaticSite.Markdown
