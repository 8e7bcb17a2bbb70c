import StaticSite.Markdown.Block.Basic
import StaticSite.Markdown.Block.Start

/-!
# Containers

Quotations and list items hold blocks. While a document is read, one container at each depth is open.
Every line is compared with the open containers from the outside in: each takes its mark off the
line, and the first one that does not find its mark ends, with all containers inside it.

## Blank lines

A list is tight unless a blank line stands between two of its items or between two blocks directly
in one of them. A blank line counts for what comes next: for the list whose next item it is, or for
the list in whose open item a block begins. A blank line in a quotation does not count.

An item that begins with a blank line may have its first block on the next line, and none later.
-/

namespace StaticSite.Markdown

/-- A list item that is open, with its finished blocks, the last first. -/
structure OpenItem where
  /-- The columns that stand in front of a line of the item. -/
  indent : Nat
  content : List (Block Prose) := []
deriving Repr

/-- A list that is open. -/
structure OpenList where
  /-- The mark that all items share. -/
  mark : Char
  start? : Option Nat
  tight : Bool := true
  /-- The finished items, the last first. -/
  items : List (List (Block Prose)) := []
  /-- The item that is open; between two items there is none. -/
  item? : Option OpenItem
deriving Repr

/-- The list with its open item finished. -/
def OpenList.closeItem (l : OpenList) : OpenList :=
  match l.item? with
  | some i => { l with items := i.content.reverse :: l.items, item? := none }
  | none => l

/-- A container that is open. -/
inductive Container
  /-- A quotation with its finished blocks, the last first. -/
  | quote (content : List (Block Prose))
  | list (l : OpenList)
deriving Repr

/-- Whether a container is a list. -/
def Container.isList : Container → Bool
  | list _ => true
  | quote _ => false

/-! ### Marks -/

/-- The place behind the mark of a quotation and one column more. -/
def afterQuoteMark? (p : Place) : Option Place :=
  if p.rest.head? == some '>' then some ((p.pass 1).skip 1).2 else none

/-- The place behind the mark of an open container. A line with nothing on it is in every item. -/
def Container.enter? (p : Place) : Container → Option Place
  | quote _ => afterQuoteMark? (p.skip 3).2
  | list l =>
    match l.item? with
    | some i =>
      let (missing, p) := p.skip i.indent
      if missing = 0 || atLineEnd p.rest then some p else none
    | none => some p

/-- The number of containers, from the outside in, whose marks a line has, and the place behind
these. -/
def enterAll (p : Place) : List Container → Nat × Place
  | [] => (0, p)
  | c :: inner =>
    match c.enter? p with
    | some p =>
      let (n, p) := enterAll p inner
      (n + 1, p)
    | none => (0, p)

/-- How a line goes on with what is open in containers, given from the outside in: whether it has
all their marks, and the place behind those it has. -/
def enter (containers : List Container) (line : List Char) : Bool × Place :=
  let (n, p) := enterAll { rest := line } containers
  (n == containers.length, p)

/-- What a line brings to a definition: its characters behind the marks of the containers and up to
four columns of indentation. A line that is indented by less and begins another block brings nothing,
nor does one that could make a heading of the lines before it; inside a label, this one has to have
the marks of all containers. -/
def continuation? (containers : List Container) (inLabel : Bool) (line : List Char) :
    Option (List Char) :=
  let (inPlace, p) := enter containers line
  let (missing, p) := p.skip 4
  let underlines := (inPlace || !inLabel) && (underline? p.rest).isSome
  if missing ≠ 0 && (interrupts inPlace p.rest || underlines) then none
  else some p.rest

/-! ### The state of reading -/

/-- How far a document has been read. -/
structure Reading where
  /-- The finished blocks outside all containers, the last first. -/
  blocks : List (Block Prose) := []
  /-- The open containers, the innermost first. -/
  containers : List Container := []
  /-- The definitions, the last first. -/
  definitions : List Definition := []
  /-- Whether the last line was blank in a way that counts. -/
  afterBlank : Bool := false
  /-- Whether an item was begun that has nothing in it yet. -/
  hollowItem : Bool := false
deriving Repr

namespace Reading

/-- Add a block to the innermost container. -/
def add (r : Reading) (b : Block Prose) : Reading :=
  match r.containers with
  | [] => { r with blocks := b :: r.blocks }
  | .quote content :: outer => { r with containers := .quote (b :: content) :: outer }
  | .list l :: outer =>
    let item? := l.item?.map fun i => { i with content := b :: i.content }
    { r with containers := .list { l with item? } :: outer }

/-- End the innermost container. -/
def close (r : Reading) : Reading :=
  match r.containers with
  | [] => r
  | .quote content :: outer => { r with containers := outer }.add (.quote content.reverse)
  | .list l :: outer =>
    { r with containers := outer, hollowItem := r.hollowItem && !l.tight }.add
      (.list l.start? l.tight l.closeItem.items.reverse)

/-- End the item that is innermost, if there is one; its list stays open. -/
def closeItem (r : Reading) : Reading :=
  match r.containers with
  | .list l :: outer => { r with containers := .list l.closeItem :: outer }
  | _ => r

/-- End the `n` innermost containers because a line lacks the mark of the outermost of them. A list
stays open when the line lacks the mark of its item. -/
def leave (r : Reading) : Nat → Reading
  | 0 => r
  | 1 =>
    match r.containers with
    | .list _ :: _ => r.closeItem
    | _ => r.close
  | n + 2 => r.close.leave (n + 1)

/-- End an item that has begun with a blank line and has nothing in it on the next line. -/
def closeHollowItem (r : Reading) : Reading :=
  let closed := if r.hollowItem && r.afterBlank then r.closeItem else r
  { closed with hollowItem := false }

/-- End the innermost list if no item of it is open. -/
def closeList (r : Reading) : Reading :=
  match r.containers with
  | .list l :: _ => if l.item?.isNone then r.close else r
  | _ => r

/-- Let the list whose item is innermost be loose. -/
def loosen (r : Reading) : Reading :=
  match r.containers with
  | .list l :: outer => { r with containers := .list { l with tight := false } :: outer }
  | _ => r

/-- Prepare for a block that is no list item. -/
def beginBlock (r : Reading) : Reading :=
  let r := r.closeHollowItem.closeList
  if r.afterBlank then { r.loosen with afterBlank := false } else r

/-- Begin a list with its first item. -/
def beginList (r : Reading) (m : Marker) (indent : Nat) : Reading :=
  let r := r.beginBlock
  let l : OpenList := { mark := m.mark, start? := m.number?, item? := some { indent } }
  { r with containers := .list l :: r.containers }

/-- Begin a list item, in the innermost list if its items have the same mark. -/
def beginItem (r : Reading) (m : Marker) (indent : Nat) : Reading :=
  let r := r.closeHollowItem
  match r.containers with
  | .list l :: outer =>
    if l.item?.isNone && l.mark == m.mark then
      let l := { l with tight := l.tight && !r.afterBlank, item? := some { indent } }
      { r with containers := .list l :: outer, afterBlank := false }
    else r.beginList m indent
  | _ => r.beginList m indent

/-- Begin a quotation. -/
def beginQuote (r : Reading) : Reading :=
  let r := r.beginBlock
  { r with containers := .quote [] :: r.containers }

/-- Note a blank line. An item that is still hollow then takes lines of any indentation, until what
comes next ends it or is the next item. -/
def blankLine (r : Reading) : Reading :=
  match r.containers with
  | .quote _ :: _ => r
  | .list l :: outer =>
    let item? := l.item?.map fun i => if r.hollowItem then { i with indent := 0 } else i
    { r with containers := .list { l with item? } :: outer, afterBlank := true }
  | [] => { r with afterBlank := true }

/-- End all containers. -/
def finish (r : Reading) : Document :=
  let r := r.containers.foldl (fun r _ => r.close) r
  { blocks := r.blocks.reverse, definitions := r.definitions.reverse }

end Reading

end StaticSite.Markdown
