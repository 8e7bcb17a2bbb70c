/-!
# Pages as navigation targets

A page is addressed by its slug and written to one file, whose name is the slug with an extension.
-/

namespace StaticSite

/-- The file that the page with the given slug is written to. -/
def pageFile (slug : String) : String :=
  slug ++ ".html"

/-- One entry of the navigation bar. -/
structure NavEntry where
  slug : String
  title : String
deriving DecidableEq, Repr

/-- The file that the entry links to. -/
def NavEntry.file (e : NavEntry) : String :=
  pageFile e.slug

end StaticSite
