import StaticSite.Text.Hexadecimal

/-!
# The characters of a TOML document

Blanks, line ends, comments, keys and strings. Each function takes the characters that are left and
gives back what it has read together with the rest; `none` means that the text is no TOML document.
-/

namespace StaticSite.Toml

/-- Space and tab, the blanks inside a line. -/
def isBlank (c : Char) : Bool := c == ' ' || c == '\t'

/-- The rest after the blanks at the front. -/
def skipBlanks (s : List Char) : List Char := s.dropWhile isBlank

/-- The rest after a line end at the front. -/
def lineEnd? : List Char → Option (List Char)
  | '\n' :: rest => some rest
  | '\r' :: '\n' :: rest => some rest
  | _ => none

/-- The characters that a comment or a string may hold as they are, the delimiters apart: all but
the control characters, of which only the tab is allowed. -/
def isPlain (c : Char) : Bool :=
  c == '\t' || (0x20 ≤ c.toNat && c.toNat != 0x7f)

/-- The rest after a comment at the front, if there is one. -/
def skipComment : List Char → List Char
  | '#' :: rest => rest.dropWhile isPlain
  | s => s

/-- The rest after what may stand at the end of a line: blanks, a comment, and the line end or the
end of the document. -/
def finishLine (s : List Char) : Option (List Char) :=
  match skipComment (skipBlanks s) with
  | [] => some []
  | s => lineEnd? s

/-- The rest after blanks, comments and line ends, as between the items of an array. -/
def skipLines : Nat → List Char → List Char
  | 0, s => s
  | fuel + 1, s =>
    match skipBlanks s with
    | '#' :: rest =>
      match lineEnd? (rest.dropWhile isPlain) with
      | some rest => skipLines fuel rest
      | none => rest.dropWhile isPlain
    | s =>
      match lineEnd? s with
      | some rest => skipLines fuel rest
      | none => s

/-! ### Strings -/

/-- An escape after its backslash. -/
def readEscape : List Char → Option (Char × List Char)
  | 'b' :: rest => some ('\x08', rest)
  | 'f' :: rest => some ('\x0c', rest)
  | 'n' :: rest => some ('\n', rest)
  | 'r' :: rest => some ('\r', rest)
  | 't' :: rest => some ('\t', rest)
  | '"' :: rest => some ('"', rest)
  | '\\' :: rest => some ('\\', rest)
  | 'u' :: a :: b :: c :: d :: rest =>
    ((Text.hexNumber? [a, b, c, d]).bind Text.charOfNumber?).map fun x => (x, rest)
  | 'U' :: a :: b :: c :: d :: e :: f :: g :: h :: rest =>
    ((Text.hexNumber? [a, b, c, d, e, f, g, h]).bind Text.charOfNumber?).map fun x => (x, rest)
  | _ => none

/-- A basic string after its opening quote. -/
def readBasic : Nat → List Char → Option (List Char × List Char)
  | 0, _ => none
  | fuel + 1, s =>
    match s with
    | [] => none
    | '"' :: rest => some ([], rest)
    | '\\' :: rest =>
      match readEscape rest with
      | some (c, rest) => (readBasic fuel rest).map fun r => (c :: r.1, r.2)
      | none => none
    | c :: rest =>
      if isPlain c then (readBasic fuel rest).map fun r => (c :: r.1, r.2) else none

/-- A literal string after its opening quote. -/
def readLiteral : List Char → Option (List Char × List Char)
  | [] => none
  | '\'' :: rest => some ([], rest)
  | c :: rest => if isPlain c then (readLiteral rest).map fun r => (c :: r.1, r.2) else none

/-- Quotes inside or at the end of a string in triple quotes: fewer than three are text; of three to
five the last three close the string. -/
def closingQuotes (quote : Char) (s : List Char) : Option (List Char × List Char) :=
  let run := (s.take 5).takeWhile (· == quote)
  if run.length < 3 then none
  else some (List.replicate (run.length - 3) quote, s.drop run.length)

/-- The rest after a backslash at the end of a line: blanks, the line end, and all blanks and line
ends that follow. -/
def skipContinuation (s : List Char) : Option (List Char) :=
  (lineEnd? (skipBlanks s)).map fun rest => rest.dropWhile fun c =>
    isBlank c || c == '\n' || c == '\r'

/-- Whether a carriage return stands alone among the blanks and line ends at the front. -/
def hasStrayReturn : List Char → Bool
  | '\r' :: '\n' :: rest => hasStrayReturn rest
  | '\r' :: _ => true
  | c :: rest => if isBlank c || c == '\n' then hasStrayReturn rest else false
  | [] => false

/-- The body of a basic string in triple quotes. -/
def readBasicLines : Nat → List Char → Option (List Char × List Char)
  | 0, _ => none
  | fuel + 1, s =>
    match s with
    | [] => none
    | '"' :: rest =>
      match closingQuotes '"' ('"' :: rest) with
      | some r => some r
      | none => (readBasicLines fuel rest).map fun r => ('"' :: r.1, r.2)
    | '\\' :: rest =>
      match readEscape rest with
      | some (c, rest) => (readBasicLines fuel rest).map fun r => (c :: r.1, r.2)
      | none =>
        if hasStrayReturn rest then none
        else (skipContinuation rest).bind (readBasicLines fuel)
    | c :: rest =>
      match lineEnd? (c :: rest) with
      | some rest => (readBasicLines fuel rest).map fun r => ('\n' :: r.1, r.2)
      | none =>
        if isPlain c then (readBasicLines fuel rest).map fun r => (c :: r.1, r.2) else none

/-- The body of a literal string in triple quotes. -/
def readLiteralLines : Nat → List Char → Option (List Char × List Char)
  | 0, _ => none
  | fuel + 1, s =>
    match s with
    | [] => none
    | '\'' :: rest =>
      match closingQuotes '\'' ('\'' :: rest) with
      | some r => some r
      | none => (readLiteralLines fuel rest).map fun r => ('\'' :: r.1, r.2)
    | c :: rest =>
      match lineEnd? (c :: rest) with
      | some rest => (readLiteralLines fuel rest).map fun r => ('\n' :: r.1, r.2)
      | none =>
        if isPlain c then (readLiteralLines fuel rest).map fun r => (c :: r.1, r.2) else none

/-- The rest after a line end that directly follows opening triple quotes. -/
def skipFirstLineEnd (s : List Char) : List Char :=
  (lineEnd? s).getD s

/-- A string of any of the four kinds. -/
def readString (s : List Char) : Option (List Char × List Char) :=
  match s with
  | '"' :: '"' :: '"' :: rest => readBasicLines (rest.length + 1) (skipFirstLineEnd rest)
  | '\'' :: '\'' :: '\'' :: rest => readLiteralLines (rest.length + 1) (skipFirstLineEnd rest)
  | '"' :: rest => readBasic (rest.length + 1) rest
  | '\'' :: rest => readLiteral rest
  | _ => none

/-! ### Keys -/

/-- The characters of a bare key. -/
def isBareKeyChar (c : Char) : Bool :=
  c.isAlphanum || c == '_' || c == '-'

/-- One key: bare, or a string on one line. -/
def readSimpleKey (s : List Char) : Option (String × List Char) :=
  match s with
  | '"' :: rest => (readBasic (rest.length + 1) rest).map fun r => (String.ofList r.1, r.2)
  | '\'' :: rest => (readLiteral rest).map fun r => (String.ofList r.1, r.2)
  | s =>
    let key := s.takeWhile isBareKeyChar
    if key = [] then none else some (String.ofList key, s.dropWhile isBareKeyChar)

/-- The greatest number of keys in a dotted key, and of arrays and tables around a value. -/
def depthLimit : Nat := 79

/-- Keys with dots between them, and blanks around the dots; blanks after the last are skipped. -/
def readKeys : Nat → List Char → Option (List String × List Char)
  | 0, _ => none
  | fuel + 1, s =>
    match readSimpleKey (skipBlanks s) with
    | none => none
    | some (key, rest) =>
      match skipBlanks rest with
      | '.' :: rest => (readKeys fuel rest).map fun r => (key :: r.1, r.2)
      | rest => some ([key], rest)

end StaticSite.Toml
