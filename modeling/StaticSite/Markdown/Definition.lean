import StaticSite.Markdown.Link

/-!
# Definitions

A definition gives a target to a label: `[label]: destination "title"`. It stands where a paragraph
could begin and shows nothing. It may reach over lines, and `next` tells what a further line brings:
its characters behind the marks of the containers, or nothing if the line has to begin a block of its
own. Which lines have to may be different inside a label.

The first definition of a label counts.
-/

namespace StaticSite.Markdown

/-- A target under a label. -/
structure Definition where
  /-- The label in the form in which labels are compared. -/
  label : List Char
  target : Target
deriving DecidableEq, Repr

/-- The target of a label, in the form in which labels are compared. -/
def findTarget? (definitions : List Definition) (label : List Char) : Option Target :=
  (definitions.find? fun d => d.label == label).map Definition.target

/-- The rest after blanks with at most one line end among them, and whether there was one. -/
def definitionSpace? (next : List Char → Option (List Char)) (s : List Char) :
    Option (Bool × List Char) :=
  let s := s.dropWhile isBlank
  match afterLineEnd? s with
  | none => some (false, s)
  | some s => do
    let line := (← next s).dropWhile isBlank
    if (afterLineEnd? line).isSome then none else some (true, line)

/-- The title of a definition up to `close`, as it is written; `refused` may not occur in it. There
is fuel for as many characters. -/
def definitionTitleUpTo? (next : List Char → Option (List Char)) (close refused : Char) :
    Nat → List Char → Option (List Char × List Char)
  | fuel + 1, c :: rest =>
    let goOn (text rest : List Char) :=
      (definitionTitleUpTo? next close refused fuel rest).map fun r => (text ++ r.1, r.2)
    if c = close then some ([], rest)
    else if c = refused then none
    else if isLineEnd c then do
      let line ← next (← afterLineEnd? (c :: rest))
      goOn ['\n'] (line.dropWhile isIndent)
    else
      match c, rest with
      | '\\', e :: behind =>
        if Text.isAsciiPunctuation e then goOn ['\\', e] behind else goOn ['\\'] rest
      | _, _ => goOn [c] rest
  | _, _ => none

/-- The title of a definition with nothing behind it on its line, and the rest behind the title. -/
def definitionTitle? (next : List Char → Option (List Char)) :
    List Char → Option (List Char × List Char)
  | [] => none
  | c :: s => do
    let (written, rest) ← definitionTitleUpTo? next (← titleEnd? c) c s.length s
    let _ ← afterBlankLine? rest
    return (unescape written, rest)

/-- The title that follows the destination of a definition, and the rest behind what belongs to the
definition. A title that cannot be read makes the definition end with its destination if it stands
on a line of its own, and is no part of a definition otherwise. -/
def afterDestination? (next : List Char → Option (List Char)) (s : List Char) :
    Option (List Char × List Char) :=
  match definitionSpace? next s with
  | none => some ([], s)
  | some (onNextLine, rest) =>
    if !onNextLine && !s.head?.any isBlank then none
    else
      match definitionTitle? next rest with
      | some found => some found
      | none => if onNextLine then some ([], s) else none

/-- A definition, and the rest behind it; only blanks are left on its line. `next` is told whether
the line begins inside the label. -/
def definition? (next : Bool → List Char → Option (List Char)) :
    List Char → Option (Definition × List Char)
  | '[' :: s => do
    let (label, s) ← label? (next true) s
    let ':' :: s := s | none
    let (_, s) ← definitionSpace? (next false) s
    let (written, rest) ← destination? s
    guard (written != [] || s.head? == some '<')
    let (title, rest) ← afterDestination? (next false) rest
    return ({ label, target := { destination := unescape written, title } }, rest)
  | _ => none

end StaticSite.Markdown
