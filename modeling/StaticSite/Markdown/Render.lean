import StaticSite.Html.Escape
import StaticSite.Markdown.Content
import StaticSite.Text.Decimal

/-!
# Markdown as HTML

CommonMark without extensions. A block begins on a line of its own: where the text before it does
not end a line, a line end is put in between. Text has three characters replaced by entities, and
attributes have the quotation mark and the apostrophe replaced too. Raw HTML is copied to where it
stands.

Addresses are written in ASCII: a character that an address may not hold is written byte by byte in
hexadecimal digits, each byte behind a percent sign.
-/

namespace StaticSite.Markdown

/-- How a character of text is written: as in an attribute, but quotation marks stay. -/
def escapeTextChar : Char → List Char
  | '"' => ['"']
  | c => Html.escapeChar c

/-- Text between tags. -/
def escapeText (s : List Char) : List Char := s.flatMap escapeTextChar

/-- How a character of an attribute is written. -/
def escapeAttributeChar : Char → List Char
  | '\'' => "&#39;".toList
  | c => Html.escapeChar c

/-- Text in an attribute. -/
def escapeAttribute (s : List Char) : List Char := s.flatMap escapeAttributeChar

/-- The characters that stand for themselves in an address. -/
def isAddressChar (c : Char) : Bool :=
  c.isAlphanum || "!#$%()*+,-./:;=?@^_~".toList.contains c

/-- A byte behind a percent sign. -/
def percentByte (b : UInt8) : List Char :=
  let digit (n : Nat) := (Nat.digitChar n).toUpper
  ['%', digit (b.toNat / 16), digit (b.toNat % 16)]

/-- How a character of an address is written. -/
def escapeAddressChar (c : Char) : List Char :=
  if isAddressChar c then [c]
  else
    match c with
    | '&' => "&amp;".toList
    | '\'' => "&#x27;".toList
    | _ => (String.utf8EncodeChar c).flatMap percentByte

/-! ### Tags -/

/-- Content between an opening and a closing text. -/
def enclose (opening closing : String) (content : List Char) : List Char :=
  opening.toList ++ content ++ closing.toList

/-- The attribute of a link or an image that follows its address. -/
def titleAttribute (t : Target) : List Char :=
  if t.title = [] then [] else enclose " title=\"" "\"" (escapeAttribute t.title)

/-- An address between quotation marks. -/
def quotedAddress (t : Target) : List Char :=
  enclose "\"" "\"" (t.destination.flatMap escapeAddressChar)

/-- A link around its content. -/
def linkElement (t : Target) (content : List Char) : List Char :=
  enclose "<a href=" ">" (quotedAddress t ++ titleAttribute t) ++ enclose "" "</a>" content

/-- An image with the text that stands for it. -/
def imageElement (t : Target) (alt : List Char) : List Char :=
  enclose "<img src=" " />"
    (quotedAddress t ++ enclose " alt=\"" "\"" (escapeAttribute alt) ++ titleAttribute t)

/-- A line break that the reader sees. -/
def lineBreak : String := "<br />\n"

/-- A line across the page. -/
def ruleElement : String := "<hr />\n"

/-- A heading of a level around its content. -/
def headingElement (level : Nat) (content : List Char) : List Char :=
  enclose (String.join ["<h", Text.decimal level, ">"])
    (String.join ["</h", Text.decimal level, ">\n"]) content

/-- The opening tag of a list. -/
def listOpening : Option Nat → String
  | none => "<ul>\n"
  | some n => if n = 1 then "<ol>\n" else String.join ["<ol start=\"", Text.decimal n, "\">\n"]

/-- The closing tag of a list. -/
def listClosing : Option Nat → String
  | none => "</ul>\n"
  | some _ => "</ol>\n"

/-- The tag that names the language of a block of code, if it has one. -/
def codeTag (language : List Char) : List Char :=
  if language = [] then "<code>".toList
  else enclose "<code class=\"language-" "\">" (escapeAttribute language)

/-! ### Inline content -/

mutual

/-- A piece of inline content as HTML. -/
def Inline.render : Inline → List Char
  | .text s => escapeText s
  | .code s => enclose "<code>" "</code>" (escapeText s)
  | .html s => s
  | .softBreak => ['\n']
  | .hardBreak => lineBreak.toList
  | .emphasis content => enclose "<em>" "</em>" (renderInlines content)
  | .strong content => enclose "<strong>" "</strong>" (renderInlines content)
  | .link target content => linkElement target (renderInlines content)
  | .image target content => imageElement target (plainTextOf content)

/-- Inline content as HTML. -/
def renderInlines : List Inline → List Char
  | [] => []
  | i :: rest => i.render ++ renderInlines rest

end

/-! ### Blocks -/

/-- A line end unless the text before ends a line. -/
def freshLine (fresh : Bool) : List Char := if fresh then [] else ['\n']

/-- Whether a text ends a line; an empty one leaves it as it was. -/
def endsLine (fresh : Bool) (s : List Char) : Bool :=
  match s.getLast? with
  | some c => c == '\n'
  | none => fresh

mutual

/-- A block as HTML. `tight` tells whether paragraphs go without a frame, and `fresh` whether the
text before ends a line. -/
def Block.render (tight fresh : Bool) : Block (List Inline) → List Char
  | .paragraph content =>
    if tight then renderInlines content
    else freshLine fresh ++ enclose "<p>" "</p>\n" (renderInlines content)
  | .heading level content => freshLine fresh ++ headingElement level (renderInlines content)
  | .code language text =>
    freshLine fresh ++ enclose "<pre>" "</code></pre>\n" (codeTag language ++ escapeText text)
  | .html text => text
  | .rule => freshLine fresh ++ ruleElement.toList
  | .quote content =>
    freshLine fresh ++ enclose "<blockquote>\n" "</blockquote>\n" (renderBlocks false true content)
  | .list start? tight items =>
    freshLine fresh ++ enclose (listOpening start?) (listClosing start?) (renderItems tight items)

/-- A sequence of blocks as HTML. -/
def renderBlocks (tight fresh : Bool) : List (Block (List Inline)) → List Char
  | [] => []
  | b :: rest =>
    let html := b.render tight fresh
    html ++ renderBlocks tight (endsLine fresh html) rest

/-- The items of a list as HTML. -/
def renderItems (tight : Bool) : List (List (Block (List Inline))) → List Char
  | [] => []
  | item :: rest =>
    enclose "<li>" "</li>\n" (renderBlocks tight false item) ++ renderItems tight rest

end

/-- A Markdown text as HTML. -/
def toHtml (source : String) : String :=
  String.ofList (renderBlocks false true (contentsOf source))

end StaticSite.Markdown
