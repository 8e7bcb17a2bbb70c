import StaticSite.Markdown.Definition

/-!
# Blocks

The parts of a document from top to bottom. Paragraphs and headings first keep the text they were
written with; it is read as inline content when all definitions of the document are known.
-/

namespace StaticSite.Markdown

/-- What stands in front of a line of prose. -/
structure LineStart where
  /-- The marks of the containers. -/
  marks : List Char := []
  /-- The number of blanks in the marks and the indentation that the text follows on. -/
  blanks : Nat := 0
  /-- Whether the next mark would be the indentation of a list item, which the line lacks. If there
  were nothing else on the line, its indentation would be enough. -/
  short : Bool := false
deriving DecidableEq, Repr

/-- What stands on a line in front of the indentation at a place. -/
def LineStart.before (line : List Char) (p : Place) (short : Bool) : LineStart :=
  let marks := line.take p.passed
  let front := marks ++ p.rest.takeWhile isIndent
  { marks, blanks := front.length - (trimEnd front).length, short }

/-- Text that will be read as inline content. -/
structure Prose where
  /-- The characters without the marks of the containers. -/
  text : List Char
  /-- What stands in front of each line. -/
  starts : List LineStart := [{}]
  /-- How many characters at the end are left out, blanks included, where the last line is cut to a
  fixed width. Without it all blanks at the end are left out. -/
  cut? : Option Nat := none
deriving DecidableEq, Repr

/-- A block, with what its paragraphs and headings hold. -/
inductive Block (α : Type)
  | paragraph (content : α)
  | heading (level : Nat) (content : α)
  /-- Code as it stands, in a language that may be empty. -/
  | code (language text : List Char)
  | html (text : List Char)
  | rule
  | quote (content : List (Block α))
  /-- A list, numbered from `start?` if there is a number. The paragraphs of a tight list are
  written without a frame. -/
  | list (start? : Option Nat) (tight : Bool) (items : List (List (Block α)))
deriving Repr

/-- A document: its blocks, and the definitions in them. -/
structure Document where
  blocks : List (Block Prose)
  definitions : List Definition
deriving Repr

end StaticSite.Markdown
