import StaticSite.Config.Holder
import StaticSite.Page.Fragment
import StaticSite.Stylesheet

/-!
# The page shell

Every page is a header, a body and a footer. The header opens the document, its body element and
its main element; the footer closes them. What the body yields stands between the two untouched,
and a link error in the body means that there is no page at all.
-/

namespace StaticSite

/-- What every page of a site is rendered from. -/
structure ShellContext where
  holder : ProjectHolder
  site : SiteMeta
  policy : LinkPolicy
  toc : Toc
  nav : List NavEntry
deriving DecidableEq

/-- Why a page could not be rendered. -/
inductive RenderError
  | link (e : LinkError)
  | holder (e : HolderError)
deriving DecidableEq, Repr

/-- The wording of a render error is that of its cause. -/
def RenderError.message : RenderError → String
  | link e => e.message
  | holder e => e.message

namespace Shell

/-- One item of the navigation list. -/
def navItem (current : String) (e : NavEntry) : String :=
  String.join
    [if e.slug = current then "<li class=\"current\">" else "<li>",
      "<a href=\"", Html.escape e.file, "\">", Html.escape e.title, "</a></li>"]

/-- The navigation list, with the current page marked. -/
def nav (items : List NavEntry) (current : String) : String :=
  String.join ["<ul>", String.join (items.map (navItem current)), "</ul>"]

/-- The tagline, when there is one. -/
def tagline (site : SiteMeta) : String :=
  if site.tagline = "" then ""
  else String.join ["<span class=\"tagline\">", Html.escape site.tagline, "</span>"]

/-- The title of the document. -/
def documentTitle (site : SiteMeta) (page : NavEntry) : String :=
  String.join [page.title, " - ", site.title]

/-- Everything up to the opening tag of the main element. -/
def header (site : SiteMeta) (items : List NavEntry) (p : Project) (page : NavEntry) : String :=
  String.join
    ["<!DOCTYPE html><html lang=\"", Html.escape site.lang, "\"><head>",
      "<meta charset=\"UTF-8\">",
      "<meta name=\"viewport\" content=\"width=device-width, initial-scale=1.0\">",
      "<meta name=\"generator\" content=\"", Html.escape p.name, " ", Html.escape p.version, "\">",
      "<title>", Html.escape (documentTitle site page), "</title>",
      "<style>", stylesheet, "</style></head><body>",
      "<header class=\"site-header\"><div class=\"site-title\"><a href=\"index.html\">",
      Html.escape site.title, "</a>", tagline site, "</div>",
      "<nav class=\"site-nav\">", nav items page.slug, "</nav></header>",
      "<main class=\"page page-", Html.escape page.slug, "\">"]

/-- Everything from the closing tag of the main element. -/
def footer (p : Project) : String :=
  String.join
    ["</main><footer class=\"site-footer\"><p>", Html.escape p.name, " ", Html.escape p.version,
      " · hosted at <a href=\"", Html.escape p.hostBase, "\">", Html.escape p.hostBase,
      "</a></p></footer></body></html>"]

/-- The links of one page. -/
def links (ctx : ShellContext) (p : Project) (page : NavEntry) : Links :=
  { project := p, policy := ctx.policy, toc := ctx.toc, currentPage := page.slug }

/-- Render a page around a body. -/
def render (ctx : ShellContext) (page : NavEntry) (body : Body) : Except RenderError Fragment :=
  match ctx.holder.get with
  | .error e => .error (.holder e)
  | .ok p =>
    match body (links ctx p page) with
    | .error e => .error (.link e)
    | .ok inner =>
      .ok ⟨header ctx.site ctx.nav p page ++ inner.html ++ footer p, inner.dangling⟩

end Shell

end StaticSite
