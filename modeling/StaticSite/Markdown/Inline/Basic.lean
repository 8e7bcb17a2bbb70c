import StaticSite.Markdown.Link

/-!
# Inline content

What stands inside a paragraph or a heading: text, code, raw HTML, line breaks, emphasis, links and
images.
-/

namespace StaticSite.Markdown

/-- A piece of inline content. -/
inductive Inline
  | text (s : List Char)
  | code (s : List Char)
  | html (s : List Char)
  /-- A line end in the source that is a line end in the result. -/
  | softBreak
  /-- A line break that the reader sees. -/
  | hardBreak
  | emphasis (content : List Inline)
  | strong (content : List Inline)
  | link (target : Target) (content : List Inline)
  | image (target : Target) (content : List Inline)
deriving Repr

/-- Whether a piece is text. -/
def Inline.isText : Inline → Bool
  | .text _ => true
  | _ => false

mutual

/-- The text of a piece without its markup; line breaks become spaces. -/
def Inline.plainText : Inline → List Char
  | .text s => s
  | .code s => s
  | .html s => s
  | .softBreak => [' ']
  | .hardBreak => [' ']
  | .emphasis content => plainTextOf content
  | .strong content => plainTextOf content
  | .link _ content => plainTextOf content
  | .image _ content => plainTextOf content

/-- The text of a content without its markup. -/
def plainTextOf : List Inline → List Char
  | [] => []
  | i :: rest => i.plainText ++ plainTextOf rest

end

end StaticSite.Markdown
