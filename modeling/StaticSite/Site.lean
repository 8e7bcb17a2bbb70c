import StaticSite.FileTree
import StaticSite.Shell

/-!
# A site

A site is what all its pages share: the project's identity, the shell's settings, the table of
contents and the navigation bar.

## Workers

Pages are rendered by workers side by side. What they render stands in the order of the page list,
but if several pages fail, the error that is reported is the one that a worker met first, and which
one this is is left open. So the order in which the pages are met is a parameter of
`Site.renderAllBy`: any order of the pages can be the one of a run. A single worker meets the pages
as they stand in the list, and this is `Site.renderAll`.
-/

namespace StaticSite

/-- Why a site could not be assembled, rendered or written. -/
inductive SiteError
  | file (e : FileError)
  | holder (e : HolderError)
  | toc (e : TocError)
  | render (page : String) (cause : RenderError)
  | unknownPage (slug : String)
deriving DecidableEq, Repr

/-- The wording of a failure. -/
def SiteError.message : SiteError → String
  | file e => String.join ["IO error: ", e.message]
  | holder e => String.join ["Config error: ", e.message]
  | toc e => String.join ["Table of contents error: ", e.message]
  | render page cause =>
    String.join ["failed to render page ", Text.quoted page, ": ", cause.message]
  | unknownPage slug => String.join ["no page named ", Text.quoted slug]

/-- What all pages of a site share. -/
structure Site where
  context : ShellContext
deriving DecidableEq

/-- A page in memory, not yet written. -/
structure RenderedPage where
  page : Page
  content : Fragment

namespace Site

/-- The table of contents of the pages and the configured sections. -/
def tocOf (config : SiteConfig) (pages : List Page) : Except TocError Toc :=
  Toc.build (pages.map fun p => (p.slug, p.sections)) config.sections

/-- Assemble the site of a configuration and its pages. -/
def assemble (config : SiteConfig) (pages : List Page) : Except SiteError Site :=
  match tocOf config pages with
  | .error e => .error (.toc e)
  | .ok toc =>
    match ProjectHolder.empty.set? config.project with
    | .error e => .error (.holder e)
    | .ok holder =>
      .ok ⟨{ holder, site := config.site, policy := config.links, toc,
             nav := pages.map Page.navEntry }⟩

/-- The project's identity. -/
def project (s : Site) : Except HolderError Project := s.context.holder.get

/-- The table of contents. -/
def toc (s : Site) : Toc := s.context.toc

/-- The navigation bar. -/
def nav (s : Site) : List NavEntry := s.context.nav

/-- Render one page. -/
def renderPage (s : Site) (p : Page) : Except SiteError Fragment :=
  match Shell.render s.context p.navEntry p.body with
  | .ok content => .ok content
  | .error cause => .error (.render p.slug cause)

/-- Render pages in order, as a single worker does; the first failure ends the work. -/
def renderAll (s : Site) : List Page → Except SiteError (List RenderedPage)
  | [] => .ok []
  | p :: rest =>
    match s.renderPage p with
    | .error e => .error e
    | .ok content =>
      match renderAll s rest with
      | .error e => .error e
      | .ok others => .ok (⟨p, content⟩ :: others)

/-- Render pages that workers meet in the order `order`, an arrangement of `pages`. The failure that
is met first is reported; without one, the pages stand in their own order. -/
def renderAllBy (s : Site) (order pages : List Page) : Except SiteError (List RenderedPage) :=
  match s.renderAll order with
  | .error e => .error e
  | .ok _ => s.renderAll pages

/-- Render the first page with the given slug. -/
def renderOne (config : SiteConfig) (pages : List Page) (slug : String) :
    Except SiteError Fragment :=
  match Page.find? pages slug with
  | none => .error (.unknownPage slug)
  | some p =>
    match assemble config pages with
    | .error e => .error e
    | .ok site => site.renderPage p

end Site

end StaticSite
