import StaticSite.Markdown.Render
import StaticSite.Page.Fragment
import StaticSite.Text.Uppercase

/-!
# Page scripts

A page body written as data: a list of items that are rendered in order. Links are composed by the
helpers of `Links`, so a script names paths, sections and suffixes and never a finished URL. The
first link that cannot be composed ends the script.
-/

namespace StaticSite

/-- One step of a page script. -/
inductive ScriptItem
  /-- Finished markup. -/
  | raw (html : String)
  /-- Text to be escaped. -/
  | text (s : String)
  /-- Prose in Markdown. -/
  | prose (source : String)
  /-- The project's name in upper case. -/
  | projectName
  /-- The project's version. -/
  | projectVersion
  /-- Name, version and current page, with bars between them. -/
  | summary
  /-- A link to the archive server around a text. -/
  | archiveServer (label : String)
  /-- A link into the project host, around a text or as an opening tag. -/
  | external (path : String) (label? : Option String := none)
  /-- A link to a section, around a text or as an opening tag. -/
  | internal (id : String) (label? : Option String := none)
  /-- A link to an archive, around a text or around the archive's file name. -/
  | archive (suffix : String) (label? : Option String := none)
deriving DecidableEq, Repr

/-- A page body as data. -/
abbrev Script := List ScriptItem

/-- An anchor around the text of the page, or as it stands. -/
def Anchor.labelled (a : Anchor) : Option String → String
  | some label => a.wrap label
  | none => a.render

/-- The references a link to `id` leaves dangling. -/
def Links.danglingOf (l : Links) (id : String) : List DanglingReference :=
  if l.toc.contains id then [] else [⟨id, l.currentPage⟩]

/-- Render one item. -/
def ScriptItem.render (l : Links) : ScriptItem → Except LinkError Fragment
  | raw html => .ok (.ofHtml html)
  | text s => .ok (.ofHtml (Html.escape s))
  | prose source => .ok (.ofHtml (Markdown.toHtml source))
  | projectName => .ok (.ofHtml (Html.escape (Text.uppercase l.project.name)))
  | projectVersion => .ok (.ofHtml (Html.escape l.project.version))
  | summary =>
    .ok (.ofHtml (Html.escape (String.join
      [l.project.name, "|", l.project.version, "|", l.currentPage])))
  | archiveServer label => .ok (.ofHtml (Anchor.wrap { href := l.project.archiveBase } label))
  | external path label? => (l.external path).map fun a => .ofHtml (a.labelled label?)
  | internal id label? => (l.internal id).map fun a => ⟨a.labelled label?, l.danglingOf id⟩
  | archive suffix label? => (l.archive suffix).map fun a => .ofHtml (a.labelled label?)

/-- Render a script: its items in order, up to the first link error. -/
def Script.render (l : Links) : Script → Except LinkError Fragment
  | [] => .ok {}
  | item :: rest =>
    match item.render l with
    | .error e => .error e
    | .ok first =>
      match Script.render l rest with
      | .error e => .error e
      | .ok others => .ok (first ++ others)

/-- The body that a script describes. -/
def Script.body (s : Script) : Body := fun l => s.render l

end StaticSite
