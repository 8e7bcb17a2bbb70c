import StaticSite.Links

/-!
# Rendered fragments

What a page body yields: markup, and the references to unknown sections that were let through on
the way. Fragments are put together in reading order, and the first link error ends a body.
-/

namespace StaticSite

/-- A reference to a section outside the table of contents that became a bare fragment. -/
structure DanglingReference where
  id : String
  page : String
deriving DecidableEq, Repr

/-- Markup with the dangling references met while composing it. -/
structure Fragment where
  html : String := ""
  dangling : List DanglingReference := []
deriving DecidableEq, Repr

namespace Fragment

/-- A fragment after another one. -/
def append (a b : Fragment) : Fragment :=
  ⟨a.html ++ b.html, a.dangling ++ b.dangling⟩

instance : Append Fragment := ⟨append⟩

/-- Markup without dangling references. -/
def ofHtml (html : String) : Fragment := { html }

end Fragment

/-- Renders the inside of a page. -/
abbrev Body := Links → Except LinkError Fragment

/-- A page: its identity, the sections it holds, and its body. -/
structure Page where
  slug : String
  title : String
  sections : List String := []
  body : Body

/-- The page as a navigation target. -/
def Page.navEntry (p : Page) : NavEntry :=
  ⟨p.slug, p.title⟩

/-- A list of quoted texts in brackets. -/
def quotedList (items : List String) : String :=
  String.join ["[", String.intercalate ", " (items.map Text.quoted), "]"]

/-- A page as messages show it; the body is left out. -/
def Page.describe (p : Page) : String :=
  String.join
    ["Page \x7b slug: ", Text.quoted p.slug, ", title: ", Text.quoted p.title,
      ", sections: ", quotedList p.sections, ", .. \x7d"]

/-- The first page with the given slug. -/
def Page.find? (pages : List Page) (slug : String) : Option Page :=
  pages.find? fun p => p.slug == slug

end StaticSite
