import StaticSite.Markdown.Line
import StaticSite.Text.Search

/-!
# Raw HTML

Where HTML begins and ends inside a text. Nothing here checks that a tag exists or that tags are
balanced: a piece of HTML is recognised by its shape alone and copied as it stands. Every scanner
takes the characters after the opening `<` and gives back the rest after the piece.
-/

namespace StaticSite.Markdown

/-- The characters of a tag name after its first, which is a letter. -/
def isTagNameChar (c : Char) : Bool :=
  c.isAlphanum || c == '-'

/-- The characters that begin the name of an attribute. -/
def isAttributeStart (c : Char) : Bool :=
  c.isAlpha || c == '_' || c == ':'

/-- The characters of an attribute's name after its first. -/
def isAttributeChar (c : Char) : Bool :=
  c.isAlphanum || c == '_' || c == '.' || c == ':' || c == '-'

/-- The characters of an attribute's value without quotes. -/
def isUnquotedChar (c : Char) : Bool :=
  !(isLineEnd c || [' ', '"', '\'', '=', '<', '>', '\x60'].contains c)

/-- The rest after the first `c`. -/
def afterChar? (c : Char) (s : List Char) : Option (List Char) :=
  match s.dropWhile (· != c) with
  | _ :: rest => some rest
  | [] => none

/-- The rest after the value of an attribute. -/
def afterValue? : List Char → Option (List Char)
  | '"' :: s => afterChar? '"' s
  | '\'' :: s => afterChar? '\'' s
  | c :: s => if isUnquotedChar c then some (s.dropWhile isUnquotedChar) else none
  | [] => none

/-- The rest after an attribute with or without a value. -/
def afterAttribute? : List Char → Option (List Char)
  | c :: s =>
    if isAttributeStart c then
      let rest := s.dropWhile isAttributeChar
      match rest.dropWhile isSpace with
      | '=' :: value => afterValue? (value.dropWhile isSpace)
      | _ => some rest
    else none
  | [] => none

/-- The rest after the attributes and the end of an opening tag; blanks stand before each
attribute. -/
def afterAttributes? : Nat → List Char → Option (List Char)
  | 0, _ => none
  | fuel + 1, s =>
    match s.dropWhile isSpace with
    | '>' :: rest => some rest
    | '/' :: '>' :: rest => some rest
    | next =>
      if (s.head?.any isSpace) then (afterAttribute? next).bind (afterAttributes? fuel)
      else none

/-- The rest after an opening or closing tag. -/
def afterTag? : List Char → Option (List Char)
  | '/' :: c :: s =>
    if c.isAlpha then
      match (s.dropWhile isTagNameChar).dropWhile isBlank with
      | '>' :: rest => some rest
      | _ => none
    else none
  | c :: s =>
    if c.isAlpha then afterAttributes? (s.length + 1) (s.dropWhile isTagNameChar) else none
  | [] => none

/-- The rest after a marked section, which ends where its first closing brackets are followed by
`>`. -/
def afterMarkedSection? (s : List Char) : Option (List Char) :=
  match s.dropWhile (· != ']') with
  | ']' :: rest =>
    match rest.dropWhile (· == ']') with
    | '>' :: rest => some rest
    | _ => none
  | _ => none

/-- The rest after a piece of HTML that is no tag: a comment, a processing instruction, a declaration
or a marked section. The dashes that open a comment may be among those that close it. -/
def afterMarkup? : List Char → Option (List Char)
  | '!' :: '-' :: '-' :: s => Text.afterFirst? ['-', '-', '>'] ('-' :: '-' :: s)
  | '!' :: '[' :: 'C' :: 'D' :: 'A' :: 'T' :: 'A' :: '[' :: s => afterMarkedSection? s
  | '!' :: c :: s => if c.isAlpha then afterChar? '>' s else none
  | '?' :: s => Text.afterFirst? ['?', '>'] s
  | _ => none

/-! ### Blocks -/

/-- How a block of raw HTML ends. -/
inductive HtmlEnd
  /-- With the line that holds a text. -/
  | withText (text : List Char)
  /-- Before a blank line. -/
  | beforeBlank
deriving DecidableEq, Repr

/-- The elements whose content is not read as prose, with their closing tags. -/
def literalElements : List (String × String) :=
  [("pre", "</pre>"), ("style", "</style>"), ("script", "</script>"), ("textarea", "</textarea>")]

/-- The elements that begin a block wherever they stand at the start of a line. -/
def blockElements : List String :=
  ["address", "article", "aside", "base", "basefont", "blockquote", "body", "caption", "center",
    "col", "colgroup", "dd", "details", "dialog", "dir", "div", "dl", "dt", "fieldset",
    "figcaption", "figure", "footer", "form", "frame", "frameset", "h1", "h2", "h3", "h4", "h5",
    "h6", "head", "header", "hr", "html", "iframe", "legend", "li", "link", "main", "menu",
    "menuitem", "nav", "noframes", "ol", "optgroup", "option", "p", "param", "search", "section",
    "summary", "table", "tbody", "td", "tfoot", "th", "thead", "title", "tr", "track", "ul"]

/-- The name at the front of a tag in lower case, and the rest. -/
def tagName (s : List Char) : String × List Char :=
  let name := s.takeWhile Char.isAlphanum
  (String.ofList (name.map Char.toLower), s.drop name.length)

/-- Whether the name of a literal element ends where the rest begins. -/
def literalNameEnds : List Char → Bool
  | [] => true
  | c :: _ => isSpace c || c == '>'

/-- Whether the name of a block element ends where the rest begins. -/
def blockNameEnds : List Char → Bool
  | [] => true
  | c :: rest => isIndent c || isLineEnd c || c == '>' || (c == '/' && rest.head? == some '>')

/-- Whether a tag, given after its `<` or `</`, is that of a block element. -/
def isBlockTag (s : List Char) : Bool :=
  let (name, rest) := tagName s
  blockElements.contains name && blockNameEnds rest

/-- The closing tag of the literal element that a tag begins, given after its `<`. -/
def literalElementEnd? (s : List Char) : Option String :=
  let (name, rest) := tagName s
  if literalNameEnds rest then literalElements.lookup name else none

/-- How a block of HTML ends that may also interrupt a paragraph, given after its `<`. -/
def interruptingHtml? (s : List Char) : Option HtmlEnd :=
  match s with
  | '!' :: '-' :: '-' :: _ => some (.withText ['-', '-', '>'])
  | '?' :: _ => some (.withText ['?', '>'])
  | '!' :: '[' :: 'C' :: 'D' :: 'A' :: 'T' :: 'A' :: '[' :: _ => some (.withText [']', ']', '>'])
  | '!' :: c :: _ => if c.isAlpha then some (.withText ['>']) else none
  | '/' :: s => if isBlockTag s then some .beforeBlank else none
  | s =>
    match literalElementEnd? s with
    | some close => some (.withText close.toList)
    | none => if isBlockTag s then some .beforeBlank else none

/-- How a block of HTML ends, given after its `<`. A line that holds one tag and nothing else begins
a block that ends before a blank line. -/
def htmlBlock? (s : List Char) : Option HtmlEnd :=
  match interruptingHtml? s with
  | some e => some e
  | none =>
    match afterTag? (lineOf s) with
    | some rest => if rest.all isBlank then some .beforeBlank else none
    | none => none

end StaticSite.Markdown
