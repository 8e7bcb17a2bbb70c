import StaticSite.Markdown.Block.Reader
import StaticSite.Markdown.Inline.Reader

/-!
# The content of a document

When all blocks are there and all definitions are known, the prose in the blocks is read as inline
content, from the first block to the last.

The order counts. A definition lets a short label stand for a long target, and a document could make
its result as large as it likes by repeating one. So the targets that labels stand for share an
allowance. A label that is read while some of it is left has its target, however large that is;
behind it no label has one when nothing is left.
-/

namespace StaticSite.Markdown

/-- What the targets of labels may measure together in a document of so many bytes. -/
def targetAllowance (size : Nat) : Nat := max size 100000

mutual

/-- A block with its content, and what is left of the allowance. -/
def Block.withContent (definitions : List Definition) (allowance : Nat) :
    Block Prose → Block (List Inline) × Nat
  | .paragraph prose =>
    let (content, allowance) := inlinesOf definitions allowance prose
    (.paragraph content, allowance)
  | .heading level prose =>
    let (content, allowance) := inlinesOf definitions allowance prose
    (.heading level content, allowance)
  | .code language text => (.code language text, allowance)
  | .html text => (.html text, allowance)
  | .rule => (.rule, allowance)
  | .quote content =>
    let (content, allowance) := blocksWithContent definitions allowance content
    (.quote content, allowance)
  | .list start? tight items =>
    let (items, allowance) := itemsWithContent definitions allowance items
    (.list start? tight items, allowance)

/-- Blocks with their content, and what is left of the allowance. -/
def blocksWithContent (definitions : List Definition) (allowance : Nat) :
    List (Block Prose) → List (Block (List Inline)) × Nat
  | [] => ([], allowance)
  | b :: rest =>
    let (b, allowance) := b.withContent definitions allowance
    let (rest, allowance) := blocksWithContent definitions allowance rest
    (b :: rest, allowance)

/-- The items of a list with their content, and what is left of the allowance. -/
def itemsWithContent (definitions : List Definition) (allowance : Nat) :
    List (List (Block Prose)) → List (List (Block (List Inline))) × Nat
  | [] => ([], allowance)
  | item :: rest =>
    let (item, allowance) := blocksWithContent definitions allowance item
    let (rest, allowance) := itemsWithContent definitions allowance rest
    (item :: rest, allowance)

end

/-- The blocks of a text with their content. -/
def contentsOf (source : String) : List (Block (List Inline)) :=
  let document := Document.ofText source.toList
  let allowance := targetAllowance source.utf8ByteSize
  (blocksWithContent document.definitions allowance document.blocks).1

end StaticSite.Markdown
