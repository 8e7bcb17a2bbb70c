import StaticSite.Anchor
import StaticSite.Proofs.Html.Reading

/-!
# Anchors, read back

An anchor reaches a page in two ways. The page may write the opening tag, the text of the link and
the closing tag one after another, or have the whole element written at once. The address and the
text are any texts, so either may hold quotes, brackets and what looks like an entity.

For a reader both ways are the same two pieces: a tag with an address, and the end of the element
with a text in front of it. The pieces hold the address and the text as they are escaped, and
escaping loses nothing, so both come back. An anchor without a text of its own is written as the
first of the pieces alone, so it is never mistaken for one with an empty text.

## Main results

* `Anchor.openTag_append` — the tags around a text are the element around it
* `Anchor.pieces_wrap`, `Anchor.pieces_render` — what a reader finds
* `Anchor.both_forms_read_back` — the two ways agree, and what they write can be read back
-/

namespace StaticSite

namespace Html

theorem escape_injective : Function.Injective escape :=
  Function.LeftInverse.injective unescape_escape

/-- The links of a text in their order, each with its address and its text. -/
def linksOf (html : String) : List (Option String × String) :=
  (elements "a" (pieces html)).map fun a => (a.attribute? "href", a.text)

end Html

namespace Anchor

open Html

/-- The tag that opens the element. -/
def openingPiece (href : String) : Piece :=
  { tag := .opening "a" [("href", escape href)] }

/-- The tag that closes it, behind the text of the link. -/
def closingPiece (text : String) : Piece :=
  { front := escape text, tag := .closing "a" }

/-- What an anchor is written as. -/
def writtenPieces (a : Anchor) : List Piece :=
  openingPiece a.href :: a.text?.toList.map closingPiece

theorem proper_openingPiece (href : String) : (openingPiece href).Proper := by
  simp [openingPiece, Piece.Proper, Tag.Proper, IsName]

theorem proper_closingPiece (text : String) : (closingPiece text).Proper := by
  simp [closingPiece, Piece.Proper, Tag.Proper, IsName]

theorem toList_openTag (a : Anchor) : a.openTag.toList = (openingPiece a.href).chars := by
  simp [openTag, openingPiece, Piece.chars, Tag.chars, attributeChars]

theorem toList_wrap (a : Anchor) (text : String) :
    (a.wrap text).toList = (openingPiece a.href).chars ++ (closingPiece text).chars := by
  simp [wrap, openingPiece, closingPiece, Piece.chars, Tag.chars, attributeChars]

/-- **The two ways agree**: the tags around the escaped text are the element around the text. -/
theorem openTag_append (a : Anchor) (text : String) :
    a.openTag ++ escape text ++ "</a>" = a.wrap text := by
  refine String.toList_injective ?_
  rw [String.toList_append, String.toList_append, toList_openTag, toList_wrap, List.append_assoc]
  simp [closingPiece, Piece.chars, Tag.chars]

/-- **The element around a text** is read as it was written. -/
theorem pieces_wrap (a : Anchor) (text : String) :
    pieces (a.wrap text) = [openingPiece a.href, closingPiece text] := by
  refine pieces_of_toList_eq ?_ ?_
  · rw [toList_wrap, List.flatMap_cons, List.flatMap_singleton]
  · exact List.forall_mem_cons.2
      ⟨proper_openingPiece _, List.forall_mem_singleton.2 (proper_closingPiece _)⟩

theorem pieces_openTag (a : Anchor) : pieces a.openTag = [openingPiece a.href] := by
  refine pieces_of_toList_eq ?_ (List.forall_mem_singleton.2 (proper_openingPiece _))
  rw [toList_openTag, List.flatMap_singleton]

/-- **An anchor** is read as it was written, with its text or without one. -/
theorem pieces_render (a : Anchor) : pieces a.render = a.writtenPieces := by
  obtain ⟨href, text?⟩ := a
  cases text? with
  | none => exact pieces_openTag _
  | some text => exact pieces_wrap _ text

theorem linksOf_wrap (a : Anchor) (text : String) :
    linksOf (a.wrap text) = [(some a.href, text)] := by
  rw [linksOf, pieces_wrap]
  simp [openingPiece, closingPiece, elements, Tag.opening?, upTo, Element.attribute?, Element.text]

theorem writtenPieces_injective : Function.Injective writtenPieces := by
  rintro ⟨href, text?⟩ ⟨href', text?'⟩ h
  obtain ⟨hopening, hclosing⟩ := List.cons.inj h
  have hhref : href = href' := by
    simpa [openingPiece, escape_injective.eq_iff] using hopening
  have htext : text? = text?' := by
    cases text? <;> cases text?' <;>
      simp_all [closingPiece, escape_injective.eq_iff]
  rw [hhref, htext]

/-- **Both ways of writing an anchor agree and lose nothing.** The opening tag, the escaped text and
the closing tag are the element around the text, and they are the anchor with that text as its own.
A reader finds one link in it, with the address and the text as they were before they were escaped.
And two anchors are written alike only if they are equal, whether they have texts of their own or
not. -/
theorem both_forms_read_back :
    (∀ (a : Anchor) (text : String),
      a.openTag ++ escape text ++ "</a>" = a.wrap text ∧
      render { href := a.href, text? := some text } = a.wrap text ∧
      linksOf (a.wrap text) = [(some a.href, text)]) ∧
    ∀ a b : Anchor, a.render = b.render ↔ a = b := by
  refine ⟨fun a text => ⟨openTag_append a text, rfl, linksOf_wrap a text⟩, fun a b => ⟨?_, ?_⟩⟩
  · intro h
    refine writtenPieces_injective ?_
    rw [← pieces_render, ← pieces_render, h]
  · exact congrArg render

/-- A link whose address would end its attribute, with an entity as its text. -/
example : (Anchor.mk "\">" none).wrap "&lt;" = "<a href=\"&quot;&gt;\">&amp;lt;</a>" := by decide

end Anchor

end StaticSite
