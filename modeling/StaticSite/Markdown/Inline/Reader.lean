import StaticSite.Markdown.Block.Basic
import StaticSite.Markdown.Inline.Emphasis

/-!
# Reading inline content

The text of a paragraph is read from left to right. Escapes, character references, code, addresses
and raw HTML are taken as soon as they are complete. A bracket is kept open, with what stood before
it, until its closing partner shows whether a link or an image ends there; if not, both brackets are
text. Runs of asterisks and underscores wait until the content they stand in is complete.

A link holds no link: when one is closed, the brackets around it can no longer begin one.

A text that reaches over lines does not contain the marks of the containers it stands in. Raw HTML
that is no tag shows them all the same, because it is copied as it stands in the document.
-/

namespace StaticSite.Markdown

/-- The content of code up to a run of exactly `n` backquotes, and the rest behind the run. `k`
backquotes have just been passed. -/
def codeUpTo? (n : Nat) : Nat → List Char → Option (List Char × List Char)
  | k, [] => if k = n then some ([], []) else none
  | k, c :: rest =>
    if c = '\x60' then codeUpTo? n (k + 1) rest
    else if k = n then some ([], c :: rest)
    else (codeUpTo? n 0 rest).map fun r => (List.replicate k '\x60' ++ c :: r.1, r.2)

/-! ### Marks of containers -/

/-- The marks on a line, every character with a flag. -/
def flaggedMarks (start? : Option LineStart) : List (Char × Bool) :=
  match start? with
  | some start => start.marks.map (·, true)
  | none => []

/-- A text with the marks that stand in front of its lines put in; every character is flagged that
belongs to a mark. -/
def withMarks : List LineStart → List Char → List (Char × Bool)
  | _, [] => []
  | starts, '\r' :: '\n' :: rest =>
    ('\r', false) :: ('\n', false) :: flaggedMarks starts.head? ++ withMarks starts.tail rest
  | starts, c :: rest =>
    if isLineEnd c then (c, false) :: flaggedMarks starts.head? ++ withMarks starts.tail rest
    else (c, false) :: withMarks starts rest

/-- A text with marks put in, without its marks. A line that begins inside a mark has no
indentation. -/
def withoutMarks (s : List (Char × Bool)) : List Char :=
  let text := (s.filter fun x => !x.2).map Prod.fst
  if s.head?.any Prod.snd then text.dropWhile isIndent else text

/-- The number of line ends in a text. -/
def lineEnds : List Char → Nat
  | [] => 0
  | '\r' :: '\n' :: rest => lineEnds rest + 1
  | c :: rest => lineEnds rest + if isLineEnd c then 1 else 0

/-- What stands in front of the lines of the end of a text, except the line on which it begins. -/
def Prose.startsBehind (prose : Prose) (rest : List Char) : List LineStart :=
  prose.starts.drop (prose.starts.length - lineEnds rest)

/-- What stands in front of the line on which the end of a text begins. -/
def Prose.startOf (prose : Prose) (rest : List Char) : LineStart :=
  (prose.starts[prose.starts.length - lineEnds rest - 1]?).getD {}

/-- Raw HTML that is no tag, after its `<`, and the rest of the text. -/
def markup? (prose : Prose) (s : List Char) : Option (List Char × List Char) :=
  match s with
  | '!' :: _ | '?' :: _ =>
    let marked := withMarks (prose.startsBehind s) s
    (afterMarkup? (marked.map Prod.fst)).map fun rest =>
      let n := marked.length - rest.length
      ((marked.take n).map Prod.fst, withoutMarks (marked.drop n))
  | _ => none

/-! ### Code -/

/-- Code without the indentation in front of its closing backquotes if that is all there is on the
line and takes the place of a mark. `rest` is what follows the code. -/
def dropShortIndent (prose : Prose) (code rest : List Char) : List Char :=
  let lastLine := (code.reverse.takeWhile fun c => !isLineEnd c).reverse
  if lastLine.length < code.length && lastLine.all isIndent && (prose.startOf rest).short then
    code.take (code.length - lastLine.length)
  else code

/-- The text of code as it is shown: the characters of line ends are spaces, and one space is taken
off at both ends unless there are only spaces. -/
def codeText (s : List Char) : List Char :=
  let s := s.map fun c => if isLineEnd c then ' ' else c
  if s.all (· == ' ') then s
  else if s.head? == some ' ' && s.getLast? == some ' ' then (s.drop 1).dropLast
  else s

/-! ### Progress -/

/-- What the reading of a text depends on. -/
structure Surroundings where
  definitions : List Definition
  /-- The text that is read. -/
  prose : Prose
deriving Repr

/-- A bracket that is still open. -/
structure Bracket where
  /-- Whether an exclamation mark stands before it. -/
  isImage : Bool
  /-- Whether a link may begin here. -/
  active : Bool := true
  /-- The characters behind the bracket. -/
  source : List Char
  /-- The pieces before the bracket, the last first. -/
  before : List Piece
deriving Repr

/-- The bracket as text. -/
def Bracket.text (b : Bracket) : Piece :=
  .node (.text (if b.isImage then ['!', '['] else ['[']))

/-- What has been read: the open brackets, the innermost first, and the pieces behind the innermost,
the last first. -/
structure Progress where
  brackets : List Bracket := []
  pieces : List Piece := []
  /-- The last character that was read. -/
  last? : Option Char := none
  /-- The number of characters behind the label that was found last without a definition. The
  bracket there can only end a link with another target than its own text. -/
  undefined? : Option Nat := none
  /-- Whether the last character that was read is text, or ended something that text can end too. -/
  inText : Bool := false
  /-- What the targets that labels stand for may still measure together. -/
  allowance : Nat
deriving Repr

namespace Progress

/-- Note the last character that was read. -/
def after (p : Progress) (last : Char) : Progress := { p with last? := some last }

/-- Add a piece of content. -/
def node (p : Progress) (i : Inline) : Progress :=
  { p with pieces := .node i :: p.pieces, inText := false }

/-- Add a piece of content whose last character could be text. -/
def textual (p : Progress) (i : Inline) : Progress :=
  { p.node i with inText := true }

/-- Add text. -/
def text (p : Progress) (s : List Char) : Progress :=
  if s = [] then p else p.textual (.text s)

/-- Add one character as text. -/
def char (p : Progress) (c : Char) : Progress := (p.text [c]).after c

/-- Add a run of asterisks or underscores. -/
def run (p : Progress) (r : Run) : Progress :=
  if r.opens || r.closes then { p with pieces := .run r :: p.pieces, inText := false }
  else p.textual r.text

/-- Open a bracket. -/
def openBracket (p : Progress) (isImage : Bool) (source : List Char) : Progress :=
  { p with
    brackets := { isImage, source, before := p.pieces } :: p.brackets
    pieces := []
    last? := some '['
    inText := true }

/-- Make text of the innermost bracket; nothing changes when none is open. -/
def abandonBracket (p : Progress) : Progress :=
  match p.brackets with
  | [] => p
  | b :: outer => { p with brackets := outer, pieces := p.pieces ++ b.text :: b.before }

/-- Close the innermost bracket, which is `b`, with a target. -/
def closeBracket (p : Progress) (b : Bracket) (target : Target) : Progress :=
  let content := resolveEmphasis p.pieces.reverse
  let outer := p.brackets.tail
  let p := { p with pieces := b.before }
  if b.isImage then { p with brackets := outer }.node (.image target content)
  else
    let brackets := outer.map fun o => if o.isImage then o else { o with active := false }
    { p with brackets }.node (.link target content)

/-- Read the text at the end of a paragraph or a heading. It loses its blanks or, where the end is
cut, the characters that are left out; blanks alone are then shown if they belong to text before
them. -/
def lastText (p : Progress) (prose : Prose) (s : List Char) : Progress :=
  match prose.cut? with
  | none => p.text (trimEnd s)
  | some n =>
    let shown := s.take (s.length - n)
    if trimEnd s != [] || p.inText then p.text shown
    else
      match p.pieces with
      | .run _ :: _ => { p with pieces := .tail shown :: p.pieces }
      | _ => p

/-- The content that has been read when the text ends, and what is left of the allowance. -/
def finish (p : Progress) : List Inline × Nat :=
  let pieces := p.brackets.foldl (fun pieces b => pieces ++ b.text :: b.before) p.pieces
  (resolveEmphasis pieces.reverse, p.allowance)

end Progress

/-- What a closing bracket ends. -/
inductive BracketEnd
  /-- A link or an image with a target in parentheses, and the rest behind it. -/
  | target (t : Target) (rest : List Char)
  /-- A link or an image with the target of a label, and the rest behind it. -/
  | labelled (t : Target) (rest : List Char)
  /-- A text. Behind it may stand a label that has no definition, with so many characters after
  it. -/
  | text (undefined? : Option Nat)
deriving Repr

/-- The label that is the text in a bracket, which ends before `rest`. -/
def Bracket.label? (b : Bracket) (rest : List Char) : Option (List Char) :=
  match Markdown.label? some b.source with
  | some (label, behind) => if behind.length = rest.length then some label else none
  | none => none

/-- What the bracket `b` turns out to be when it closes before `rest`: it has a target in
parentheses, or the target of the label that follows, or else that of its own text. A bracket that
is `bare` does not stand for the target of its own text. The backslash of an escape in front of a
label does not count. -/
def Bracket.close (b : Bracket) (definitions : List Definition) (bare : Bool)
    (rest : List Char) : BracketEnd :=
  let own (behind : List Char) : BracketEnd :=
    match if bare then none else (b.label? rest).bind (findTarget? definitions) with
    | some t => .labelled t behind
    | none => .text none
  let labelled : BracketEnd :=
    match match rest with
      | '\\' :: s => s
      | s => s with
    | '[' :: ']' :: behind => own behind
    | '[' :: s =>
      match Markdown.label? some s with
      | some (label, behind) =>
        match findTarget? definitions label with
        | some t => .labelled t behind
        | none => .text (some behind.length)
      | none => own rest
    | _ => own rest
  match rest with
  | '(' :: s =>
    match parenthesisedTarget? s with
    | some (t, behind) => .target t behind
    | none => labelled
  | _ => labelled

/-- The characters that may begin something other than text. -/
def specialChars : List Char :=
  ['\\', '\x60', '*', '_', '[', ']', '!', '<', '&', '\n', '\r']

/-- Whether a character stands for itself wherever it is. -/
def isPlain (c : Char) : Bool :=
  !specialChars.contains c

/-! ### Pieces

Each of these reads what begins with a certain character and takes the characters behind it. -/

/-- Read what stands behind a backslash: a line end, which is a line break, or punctuation. -/
def readEscape (p : Progress) : List Char → Progress × List Char
  | c :: rest =>
    if isLineEnd c then
      ((p.node .hardBreak).after '\n', (afterLine (c :: rest)).dropWhile isIndent)
    else if Text.isAsciiPunctuation c then (p.char c, rest)
    else (p.char '\\', c :: rest)
  | [] => (p.char '\\', [])

/-- Read code, or a run of backquotes that begins none. -/
def readCode (x : Surroundings) (p : Progress) (s : List Char) : Progress × List Char :=
  let more := s.takeWhile (· == '\x60')
  let rest := s.drop more.length
  match codeUpTo? (more.length + 1) 0 rest with
  | some (code, rest) =>
    ((p.node (.code (codeText (dropShortIndent x.prose code rest)))).after '\x60', rest)
  | none => ((p.text ('\x60' :: more)).after '\x60', rest)

/-- Read an address or raw HTML. -/
def readAngle (x : Surroundings) (p : Progress) (s : List Char) : Progress × List Char :=
  match address? s, afterTag? s, markup? x.prose s with
  | some (target, text, rest), _, _ => ((p.textual (.link target [.text text])).after '>', rest)
  | none, some rest, _ =>
    ((p.textual (.html ('<' :: s.take (s.length - rest.length)))).after '>', rest)
  | none, none, some (text, rest) => ((p.textual (.html ('<' :: text))).after '>', rest)
  | none, none, none => (p.char '<', s)

/-- Read a character reference. -/
def readReference (p : Progress) (s : List Char) : Progress × List Char :=
  match characterReference? s with
  | some (text, rest) => ((p.node (.text text)).after ';', rest)
  | none => (p.char '&', s)

/-- Read an exclamation mark, which may stand before the bracket of an image. -/
def readExclamation (p : Progress) : List Char → Progress × List Char
  | '[' :: rest => (p.openBracket true rest, rest)
  | s => (p.char '!', s)

/-- Whether a bracket that closes before the rest of a text cannot stand for the target of its own
text: it ends a label without a definition, or blanks that are shown end a heading behind it. -/
def isBare (x : Surroundings) (p : Progress) (rest : List Char) : Bool :=
  p.undefined?.any (· == rest.length) ||
    x.prose.cut?.any fun n => n < rest.length && rest.all isBlank

/-- Read a closing bracket. When the allowance is used up, no label has a definition. -/
def readClosing (x : Surroundings) (p : Progress) (s : List Char) : Progress × List Char :=
  match p.brackets with
  | [] => (p.char ']', s)
  | b :: _ =>
    if b.active then
      let definitions := if p.allowance = 0 then [] else x.definitions
      match b.close definitions (isBare x p s) s with
      | .target t rest => ({ p.closeBracket b t with last? := some ')', inText := true }, rest)
      | .labelled t rest =>
        let p := { p with allowance := p.allowance - t.size }
        ((p.closeBracket b t).after ']', rest)
      | .text undefined? =>
        let p := p.abandonBracket.char ']'
        ({ p with undefined? := undefined?.or p.undefined? }, s)
    else (p.abandonBracket.char ']', s)

/-- Read a run of the same mark. -/
def readRun (p : Progress) (mark : Char) (s : List Char) : Progress × List Char :=
  let more := s.takeWhile (· == mark)
  let rest := s.drop more.length
  ((p.run (.ofNeighbours mark (more.length + 1) p.last? rest.head?)).after mark, rest)

/-- Read text. Two or more blanks before a line end are a line break; on a line with nothing but
blanks the ones in front of the text count too. -/
def readPlain (x : Surroundings) (p : Progress) (s : List Char) : Progress × List Char :=
  let text := s.takeWhile isPlain
  match s.drop text.length with
  | [] => (p.lastText x.prose text, [])
  | c :: rest =>
    if isLineEnd c then
      let kept := trimEnd text
      let blankLine := kept = [] && p.last?.all isLineEnd
      let front := if blankLine then (x.prose.startOf (c :: rest)).blanks else 0
      let broken := kept.length + 2 ≤ text.length + front
      let lineBreak := if broken then Inline.hardBreak else .softBreak
      (((p.text kept).node lineBreak).after '\n', (afterLine (c :: rest)).dropWhile isIndent)
    else ({ p.text text with last? := text.getLast? }, c :: rest)

/-- Read what begins with `c`. -/
def readPiece (x : Surroundings) (p : Progress) (c : Char) (s : List Char) :
    Progress × List Char :=
  match c with
  | '\\' => readEscape p s
  | '\x60' => readCode x p s
  | '<' => readAngle x p s
  | '&' => readReference p s
  | '[' => (p.openBracket false s, s)
  | '!' => readExclamation p s
  | ']' => readClosing x p s
  | '*' => readRun p '*' s
  | '_' => readRun p '_' s
  | _ => readPlain x p (c :: s)

/-- Read a text with fuel for as many characters: its content, and what is left of the
allowance. -/
def readInlines (x : Surroundings) : Nat → Progress → List Char → List Inline × Nat
  | fuel + 1, p, c :: rest =>
    let next := readPiece x p c rest
    readInlines x fuel next.1 next.2
  | _, p, _ => p.finish

/-- The content of a paragraph or a heading, and what is left of the allowance for targets. -/
def inlinesOf (definitions : List Definition) (allowance : Nat) (prose : Prose) :
    List Inline × Nat :=
  readInlines { definitions, prose } prose.text.length { allowance } prose.text

end StaticSite.Markdown
