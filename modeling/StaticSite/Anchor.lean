import StaticSite.Html.Escape

/-!
# Anchors

A hyperlink with its target and, for some links, a text of its own. An anchor without text is
written as an opening tag alone; the page then supplies the text.
-/

namespace StaticSite

/-- A hyperlink. -/
structure Anchor where
  href : String
  /-- The visible text, when the link owns it. -/
  text? : Option String := none
deriving DecidableEq, Repr

namespace Anchor

/-- The opening tag alone. -/
def openTag (a : Anchor) : String :=
  String.join ["<a href=\"", Html.escape a.href, "\">"]

/-- The element around a text. -/
def wrap (a : Anchor) (text : String) : String :=
  String.join ["<a href=\"", Html.escape a.href, "\">", Html.escape text, "</a>"]

/-- The whole element when the anchor owns its text, the opening tag otherwise. -/
def render (a : Anchor) : String :=
  match a.text? with
  | some text => a.wrap text
  | none => a.openTag

end Anchor

end StaticSite
