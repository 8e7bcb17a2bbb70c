import StaticSite.Event
import StaticSite.Manifest
import StaticSite.Report.Basic
import StaticSite.Site

/-!
# Building a site

A build renders every page first and touches the file tree only when all pages are there. Then it
makes the output directory, reads the manifest and goes through the pages in order: a page whose
digest is in the manifest and whose file is there is left alone, every other page is written. The
manifest is saved at the end, so a build that stops halfway leaves the old one.

The digest is a parameter, because the rules of a build do not depend on which one is used. So is
the order in which workers meet the pages, in `checkBy` and `generateBy`: what a build leaves and
reports is the same for all orders, and only the error of pages that cannot be rendered depends on
it (`Build.generateBy_agrees`). With a single worker it is the order of the page list; this is
`check` and `generate`.
-/

namespace StaticSite

namespace Build

/-- What a report says about a rendered page. -/
def pageReport (toc : Toc) (r : RenderedPage) (status : PageStatus) : PageReport where
  slug := r.page.slug
  title := r.page.title
  file := pageFile r.page.slug
  sections := toc.sectionsOn r.page.slug
  bytes := r.content.html.utf8ByteSize
  status := status

/-- The report on a site's pages. -/
def siteReport (site : Site) (outputDir? : Option String) (pages : List PageReport) :
    Except SiteError SiteReport :=
  match site.project with
  | .ok p => .ok { project := p.name, version := p.version, outputDir?, pages }
  | .error e => .error (.holder e)

/-- The dangling references of rendered pages, in page order. A single worker notes them like this;
with more workers the order of these events means nothing. -/
def danglingEvents (rendered : List RenderedPage) : List Event :=
  rendered.flatMap fun r => r.content.dangling.map .dangling

/-! ### Checking -/

/-- Render every page and report, touching nothing. Workers meet the pages in the order `order`. -/
def checkBy (order : List Page) (site : Site) (pages : List Page) :
    List Event × Except SiteError SiteReport :=
  match site.renderAllBy order pages with
  | .error e => ([], .error e)
  | .ok rendered =>
    let outside := site.toc.outside (pages.map Page.slug)
    (danglingEvents rendered ++ outside.map fun e => .outsideSection e.1 e.2,
      siteReport site none (rendered.map fun r => pageReport site.toc r .checked))

/-- A check with a single worker. -/
def check (site : Site) (pages : List Page) : List Event × Except SiteError SiteReport :=
  checkBy pages site pages

/-! ### Writing -/

/-- How far the writing of pages has come. -/
structure Progress where
  tree : FileTree
  manifest : Manifest
  /-- The status of the pages that are done, in order. -/
  statuses : List PageStatus := []
  events : List Event := []

/-- Put one page into the output directory, unless it is there already. -/
def writePage (digest : String → String) (dir : Path) (r : RenderedPage) (p : Progress) :
    Except FileError Progress :=
  let file := pageFile r.page.slug
  let d := digest r.content.html
  if p.manifest.isFresh file d dir p.tree then
    .ok {
      tree := p.tree
      manifest := p.manifest.insert file d
      statuses := p.statuses ++ [.unchanged]
      events := p.events ++ [.pageUnchanged r.page.slug] }
  else
    match p.tree.writeText (dir.join file) r.content.html with
    | .error e => .error e
    | .ok tree =>
      .ok {
        tree
        manifest := p.manifest.insert file d
        statuses := p.statuses ++ [.written]
        events := p.events ++ [.pageWritten r.page.slug file r.content.html.utf8ByteSize] }

/-- Put pages into the output directory in order. A failure ends the work and keeps what was done
before it. -/
def writePages (digest : String → String) (dir : Path) :
    List RenderedPage → Progress → Progress × Except FileError Unit
  | [], p => (p, .ok ())
  | r :: rest, p =>
    match writePage digest dir r p with
    | .error e => (p, .error e)
    | .ok p' => writePages digest dir rest p'

/-- What a build leaves behind. -/
structure Outcome where
  tree : FileTree
  events : List Event := []
  result : Except SiteError SiteReport

/-- The manifest that a build starts from, and what is noted about it. -/
def startManifest (tree : FileTree) (dir : Path) (useCache : Bool) : Manifest × List Event :=
  if useCache then
    let loaded := Manifest.load tree dir
    (loaded.manifest,
      if loaded.discarded then [.manifestDiscarded (dir.join manifestFile).text] else [])
  else
    (.empty, [])

/-- Write rendered pages into a directory that exists, and save the manifest. -/
def writeSite (digest : String → String) (site : Site) (rendered : List RenderedPage) (dir : Path)
    (useCache : Bool) (tree : FileTree) : Outcome :=
  let (manifest, events) := startManifest tree dir useCache
  match writePages digest dir rendered { tree, manifest, events } with
  | (p, .error e) => { tree := p.tree, events := p.events, result := .error (.file e) }
  | (p, .ok ()) =>
    match p.manifest.save p.tree dir with
    | .error e => { tree := p.tree, events := p.events, result := .error (.file e) }
    | .ok tree =>
      let reports := List.zipWith (pageReport site.toc) rendered p.statuses
      { tree, events := p.events, result := siteReport site (some dir.text) reports }

/-- Build the site of a configuration into a directory. Workers meet the pages in the order
`order`. -/
def generateBy (digest : String → String) (order : List Page) (config : SiteConfig)
    (pages : List Page) (dir : Path) (useCache : Bool) (tree : FileTree) : Outcome :=
  match Site.assemble config pages with
  | .error e => { tree, result := .error e }
  | .ok site =>
    match site.renderAllBy order pages with
    | .error e => { tree, result := .error e }
    | .ok rendered =>
      match tree.makeDirectories dir with
      | (tree, .error e) =>
        { tree, events := danglingEvents rendered, result := .error (.file e) }
      | (tree, .ok ()) =>
        let outcome := writeSite digest site rendered dir useCache tree
        { outcome with events := danglingEvents rendered ++ outcome.events }

/-- A build with a single worker. -/
def generate (digest : String → String) (config : SiteConfig) (pages : List Page) (dir : Path)
    (useCache : Bool) (tree : FileTree) : Outcome :=
  generateBy digest pages config pages dir useCache tree

end Build

end StaticSite
