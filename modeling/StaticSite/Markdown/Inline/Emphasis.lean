import StaticSite.Markdown.Inline.Basic
import StaticSite.Text.Blank

/-!
# Emphasis

Runs of asterisks and underscores open and close emphasis. Whether a run can open or close depends
on its two neighbours; which runs belong together is decided from left to right: a closing run takes
the nearest open run that suits it, and the runs in between become text. Of a pair, as many
characters are used as both have: by twos for strong emphasis from the inside, and a last one for
plain emphasis.

A closing run of underscores that suits none of the open runs settles the matter for them: no later
one looks among them if it is like the first in that it could open emphasis too, or in that it could
not.
-/

namespace StaticSite.Markdown

/-- A run of asterisks or underscores. -/
structure Run where
  mark : Char
  /-- The characters that are not used up. -/
  count : Nat
  /-- The characters in the source. -/
  length : Nat
  opens : Bool
  closes : Bool
deriving DecidableEq, Repr

namespace Run

/-- The unused characters of a run as text. -/
def text (r : Run) : Inline := .text (List.replicate r.count r.mark)

/-- A run of `length` characters between two neighbours; at the end of the text there is none.
A run opens before a word and closes behind one. Punctuation counts as part of a word unless a word
stands on the other side, and an underscore does neither inside a word. -/
def ofNeighbours (mark : Char) (length : Nat) (before? after? : Option Char) : Run :=
  let blank (c? : Option Char) := c?.all Text.isBlank
  let punctuation (c? : Option Char) := c?.any Text.isPunctuation
  let edge (c? : Option Char) := blank c? || punctuation c?
  { mark, count := length, length
    opens := !blank after? && (edge before? || (mark == '*' && !punctuation after?))
    closes := !blank before? && (edge after? || (mark == '*' && !punctuation before?)) }

/-- Whether the run `r` can be closed by `closer`. If one of the two could do both, their lengths
may not add up to a multiple of three, unless the closing one is such a multiple itself. -/
def suits (r closer : Run) : Bool :=
  r.mark == closer.mark &&
    ((!r.closes && !closer.opens) || (r.length + closer.length) % 3 != 0 || closer.length % 3 == 0)

end Run

/-- A piece of a content in which emphasis is not yet decided. -/
inductive Piece
  | node (i : Inline)
  | run (r : Run)
  /-- Blanks that are shown if the run before them ends up as text. -/
  | tail (s : List Char)
deriving Repr

/-- An open run with the content behind it, the last piece first. -/
structure Opener where
  run : Run
  content : List Inline
deriving Repr

/-- A content in the making: what stands before the first open run, the last piece first, and the
open runs, the innermost first. -/
structure Draft where
  base : List Inline := []
  openers : List Opener := []
  /-- The number of open runs, the outermost ones, among which no underscores look for a partner that
  cannot open. -/
  closingFloor : Nat := 0
  /-- The same for underscores that can open too. -/
  doubleFloor : Nat := 0
deriving Repr

/-- Emphasis of `n` characters around a content. -/
def emphasise : Nat → List Inline → List Inline
  | 0, content => content
  | 1, content => [.emphasis content]
  | n + 2, content => emphasise n [.strong content]

/-- The innermost of the first `n` open runs that `closer` closes, with the content between the two
and the open runs outside. `inner` is the content behind the open runs that have been passed over. -/
def findOpener? (closer : Run) (inner : List Inline) :
    Nat → List Opener → Option (Opener × List Inline × List Opener)
  | n + 1, o :: outer =>
    let content := o.content.reverse ++ inner
    if o.run.suits closer then some (o, content, outer)
    else findOpener? closer (o.run.text :: content) n outer
  | _, _ => none

namespace Draft

/-- Add pieces at the end. -/
def append (d : Draft) (content : List Inline) : Draft :=
  match d.openers with
  | [] => { d with base := content.reverse ++ d.base }
  | o :: outer => { d with openers := { o with content := content.reverse ++ o.content } :: outer }

/-- The number of open runs among which `closer` looks for a partner, from the innermost on. -/
def reach (d : Draft) (closer : Run) : Nat :=
  if closer.mark = '_' then
    d.openers.length - if closer.opens then d.doubleFloor else d.closingFloor
  else d.openers.length

/-- Note that `closer` suits none of the open runs. -/
def settle (d : Draft) (closer : Run) : Draft :=
  if closer.mark = '_' then
    if closer.opens then { d with doubleFloor := d.openers.length }
    else { d with closingFloor := d.openers.length }
  else d

/-- Go on with the open runs outside of one that has been closed. -/
def restrict (d : Draft) (outer : List Opener) : Draft :=
  { d with
    openers := outer
    closingFloor := min d.closingFloor outer.length
    doubleFloor := min d.doubleFloor outer.length }

/-- Let a run close what it can, with fuel for as many steps as it has characters; what remains of
it is given back. -/
def close (d : Draft) (closer : Run) : Nat → Draft × Run
  | 0 => (d, closer)
  | fuel + 1 =>
    if closer.count = 0 then (d, closer)
    else
      match findOpener? closer [] (d.reach closer) d.openers with
      | none => (d.settle closer, closer)
      | some (o, content, outer) =>
        let n := min o.run.count closer.count
        let content := emphasise n content
        let d := d.restrict outer
        let left := o.run.count - n
        let d : Draft :=
          if left = 0 then d.append content
          else { d with openers := ⟨{ o.run with count := left }, content.reverse⟩ :: outer }
        d.close { closer with count := closer.count - n } fuel

/-- Add a run: it closes what it can, and the rest of it is open if it can open and text if not. -/
def addRun (d : Draft) (r : Run) : Draft :=
  let (d, r) := if r.closes then d.close r r.count else (d, r)
  if r.count = 0 then d
  else if r.opens then { d with openers := ⟨r, []⟩ :: d.openers }
  else d.append [r.text]

/-- Whether the last piece is text. -/
def endsInText (d : Draft) : Bool :=
  match d.openers with
  | [] => d.base.head?.any Inline.isText
  | o :: _ => o.content.head?.all Inline.isText

/-- Add a piece. -/
def add (d : Draft) : Piece → Draft
  | .node i => d.append [i]
  | .run r => d.addRun r
  | .tail s => if d.endsInText then d.append [.text s] else d

/-- The content with the runs that are still open as text. -/
def finish (d : Draft) : List Inline :=
  d.base.reverse ++ d.openers.reverse.flatMap fun o => o.run.text :: o.content.reverse

end Draft

/-- Decide the emphasis in a content. -/
def resolveEmphasis (pieces : List Piece) : List Inline :=
  (pieces.foldl Draft.add {}).finish

end StaticSite.Markdown
