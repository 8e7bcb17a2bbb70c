import StaticSite.Markdown.Block.Leaf

/-!
# Reading a document

A document is read block by block. A line first enters the containers that are open and leaves those
whose marks it lacks; then it may open containers of its own; and what remains of it begins a block
without blocks inside, which takes the lines that belong to it.

Definitions stand where a paragraph could begin. What follows a definition on the next line, as far
as it could go on with a paragraph, is another definition or a paragraph, whatever it looks like.
-/

namespace StaticSite.Markdown

/-- What the marks at the start of a line have opened. -/
structure Opened where
  reading : Reading
  place : Place
  /-- Whether the line ends with the marker of a list item. -/
  hollow : Bool := false
deriving Repr

/-- The marker of the list item that a line begins. -/
def itemMarker? (s : List Char) : Option Marker :=
  match marker? s with
  | some m => if m.number?.isNone && isRule s then none else some m
  | none => none

/-- Open the containers whose marks are next on a line. One column behind a marker belongs to it; up
to three more do too, but where there are more the first one begins the content. There is fuel for
as many marks. -/
def openContainers : Nat → Reading → Place → Opened
  | 0, r, p => { reading := r, place := p }
  | fuel + 1, r, p =>
    let (missing, q) := p.skip 4
    if missing = 0 then { reading := r, place := p }
    else
      match itemMarker? q.rest with
      | some m =>
        let indent := 4 - missing + m.width + 1
        let q := ((q.pass m.width).skip 1).2
        if (afterBlankLine? q.rest).isSome then
          { reading := { r.beginItem m indent with hollowItem := true }, place := q, hollow := true }
        else
          let (missing, inner) := q.skip 4
          if missing = 0 then openContainers fuel (r.beginItem m indent) q
          else openContainers fuel (r.beginItem m (indent + (4 - missing))) inner
      | none =>
        match afterQuoteMark? q with
        | some q => openContainers fuel r.beginQuote q
        | none => { reading := r, place := p }

/-- The document behind definitions. -/
inductive AfterDefinitions
  /-- A line that could go on with a paragraph, without its indentation. -/
  | prose (start : LineStart) (text : List Char)
  | block (line : List Char)
deriving Repr

/-- Read the definitions that stand where a block begins, at a text that stands behind `start`, with
fuel for as many. -/
def readDefinitions (containers : List Container) :
    Nat → Reading → LineStart → List Char → Reading × AfterDefinitions
  | 0, r, start, s => (r, .prose start s)
  | fuel + 1, r, start, s =>
    match definition? (continuation? containers) s with
    | none => (r, .prose start s)
    | some (d, rest) =>
      let r := { r with definitions := d :: r.definitions }
      let next := (afterBlankLine? rest).getD rest
      let (inPlace, p) := enter containers next
      let (missing, p) := p.skip 4
      if missing ≠ 0 && interrupts inPlace p.rest then (r, .block next)
      else
        readDefinitions containers fuel r (.before next p false) (p.rest.dropWhile isIndent)

/-- Read definitions and the paragraph behind them, which a line of marks under it makes a
heading. -/
def readProse (r : Reading) (s : List Char) : Reading × List Char :=
  let containers := r.containers.reverse
  match readDefinitions containers s.length r {} s with
  | (r, .block line) => (r, line)
  | (r, .prose start text) =>
    let p := readParagraph containers (text.length + 1) start text
    match p.level? with
    | some level => (r.add (.heading level p.content), p.rest)
    | none => (r.add (.paragraph p.content), p.rest)

/-- Read a heading of a level that begins with number signs. -/
def readHeading (r : Reading) (level : Nat) (s : List Char) : Reading × List Char :=
  let line := (lineOf (s.drop level)).dropWhile isBlank
  let content : Prose := { text := line, cut? := some (headingCut line) }
  (r.add (.heading level content), afterLine s)

/-- Read a block without blocks inside, at a place behind the marks of its first line. -/
def readLeaf (r : Reading) (p : Place) : Reading × List Char :=
  let r := r.beginBlock
  let containers := r.containers.reverse
  let (missing, q) := p.skip 4
  let indent := 4 - missing
  if missing = 0 then
    let code := readIndented containers q
    ({ r.add (.code [] code.text) with afterBlank := code.afterBlank }, code.rest)
  else
    let html? := match q.rest with
      | '<' :: s => htmlBlock? s
      | _ => none
    match html?, headingLevel? q.rest, fence? q.rest with
    | some e, _, _ =>
      let (text, rest) := readHtml containers e indent q.rest
      (r.add (.html text), rest)
    | none, some level, _ => readHeading r level q.rest
    | none, none, some f =>
      let (language, text, rest) := readFenced containers f indent q.rest
      (r.add (.code language text), rest)
    | none, none, none =>
      if isRule q.rest then
        (r.add .rule, afterLine q.rest)
      else readProse r q.rest

/-- Read the block that begins with a line, or a blank line. -/
def readBlock (r : Reading) (line : List Char) : Reading × List Char :=
  let (n, p) := enterAll { rest := line } r.containers.reverse
  let r := r.leave (r.containers.length - n)
  let o := openContainers p.rest.length r p
  match afterBlankLine? o.place.rest with
  | some rest => (if o.hollow then o.reading else o.reading.blankLine, rest)
  | none => readLeaf o.reading o.place

/-- Read what is left of a document, with fuel for as many blocks. -/
def readBlocks : Nat → Reading → List Char → Document
  | fuel + 1, r, c :: rest =>
    let (r, rest) := readBlock r (c :: rest)
    readBlocks fuel r rest
  | _, r, _ => r.finish

/-- The document that a text holds. -/
def Document.ofText (s : List Char) : Document :=
  readBlocks s.length {} s

end StaticSite.Markdown
