/-!
# Lines of a document

A document is read from the front, and what is left of it is a list of characters. A line ends with
a line feed, a carriage return or both in this order; the end of the document ends a line too.

Indentation is counted in columns: a tab reaches to the next multiple of four. A mark may use up
only a part of a tab; the columns that are left over then stand in front of what follows, and only
indentation uses them up.
-/

namespace StaticSite.Markdown

/-- The characters that make up a blank line. -/
def isBlank (c : Char) : Bool :=
  c == ' ' || c == '\t' || c == '\x0b' || c == '\x0c'

/-- The characters that indent a line. -/
def isIndent (c : Char) : Bool :=
  c == ' ' || c == '\t'

/-- The characters that end a line. -/
def isLineEnd (c : Char) : Bool :=
  c == '\n' || c == '\r'

/-- Blanks and line ends. -/
def isSpace (c : Char) : Bool :=
  isBlank c || isLineEnd c

/-- The rest behind the end of a line. -/
def afterLineEnd? : List Char → Option (List Char)
  | [] => some []
  | '\n' :: rest => some rest
  | '\r' :: '\n' :: rest => some rest
  | '\r' :: rest => some rest
  | _ => none

/-- Whether a line ends here. -/
def atLineEnd (s : List Char) : Bool := s.head?.all isLineEnd

/-- What is left of the line. -/
def lineOf (s : List Char) : List Char := s.takeWhile fun c => !isLineEnd c

/-- The rest behind the line. -/
def afterLine (s : List Char) : List Char :=
  (afterLineEnd? (s.dropWhile fun c => !isLineEnd c)).getD []

/-- The rest behind the line, if there are only blanks on it. -/
def afterBlankLine? (s : List Char) : Option (List Char) :=
  afterLineEnd? (s.dropWhile isBlank)

/-- The characters up to the next line feed, that one included, and the rest. -/
def takeRow : List Char → List Char × List Char
  | [] => ([], [])
  | '\n' :: rest => (['\n'], rest)
  | c :: rest =>
    let (row, rest) := takeRow rest
    (c :: row, rest)

/-- A text without the blanks at its end. -/
def trimEnd (s : List Char) : List Char := (s.reverse.dropWhile isBlank).reverse

/-! ### Places -/

/-- A place on a line. -/
structure Place where
  /-- The document from here on. -/
  rest : List Char
  /-- The column at which the characters stand. -/
  column : Nat := 0
  /-- The columns left over from a tab of which only a part was used. -/
  lead : Nat := 0
  /-- The number of characters on the line before the place. -/
  passed : Nat := 0
deriving DecidableEq, Repr

/-- Pass up to `n` columns of the indentation in front of a text that stands at `column`, behind
`passed` characters; the number is what was missing. -/
def skipColumns : Nat → Nat → Nat → List Char → Nat × Place
  | n + 1, column, passed, ' ' :: rest => skipColumns n (column + 1) (passed + 1) rest
  | n + 1, column, passed, '\t' :: rest =>
    let width := 4 - column % 4
    if width ≤ n + 1 then skipColumns (n + 1 - width) (column + width) (passed + 1) rest
    else (0, { rest, column := column + width, lead := width - (n + 1), passed := passed + 1 })
  | n, column, passed, rest => (n, { rest, column, passed })

namespace Place

/-- Pass up to `n` columns of indentation; the number is what was missing. -/
def skip (p : Place) (n : Nat) : Nat × Place :=
  if n ≤ p.lead then (0, { p with lead := p.lead - n })
  else skipColumns (n - p.lead) p.column p.passed p.rest

/-- Pass characters that are no indentation; columns that are left over stay in front. -/
def pass (p : Place) (n : Nat) : Place :=
  { p with rest := p.rest.drop n, column := p.column + n, passed := p.passed + n }

end Place

end StaticSite.Markdown
