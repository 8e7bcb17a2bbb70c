import StaticSite.Project

/-!
# Site configuration

The settings a site is built from: the project's identity, the presentation of the page shell, the
policy for anchors, and the sections that live on pages outside this site.

The default of `SiteConfig` declares no sections; `SiteConfig.stock` is the configuration of a site
without a configuration file.
-/

namespace StaticSite

/-- Settings of the page shell. -/
structure SiteMeta where
  title : String := "JODE"
  tagline : String := "Java Optimize and Decompile Environment"
  /-- The language code of the document element. -/
  lang : String := "en"
deriving DecidableEq, Repr

/-- How an internal anchor names its page. -/
inductive AnchorStyle
  /-- A bare fragment on the section's own page, the page's file name in front elsewhere. -/
  | auto
  /-- Always a bare fragment. -/
  | fragment
  /-- Always the page's file name in front. -/
  | qualified
deriving DecidableEq, Repr

/-- What a reference to a section outside the table of contents does. -/
inductive UnknownSections
  /-- It fails the page. -/
  | error
  /-- It becomes a bare fragment, with a warning. -/
  | warn
deriving DecidableEq, Repr

/-- The policy for internal anchors. -/
structure LinkPolicy where
  anchorStyle : AnchorStyle := .auto
  unknownSections : UnknownSections := .error
deriving DecidableEq, Repr

/-- A section declared in the configuration, with the slug of the page it lives on. -/
structure SectionEntry where
  id : String
  page : String
deriving DecidableEq, Repr

/-- Everything a site is configured by. -/
structure SiteConfig where
  project : Project := {}
  site : SiteMeta := {}
  links : LinkPolicy := {}
  sections : List SectionEntry := []
deriving DecidableEq, Repr

/-- The sections that the built-in pages refer to without holding them. -/
def stockSections : List SectionEntry :=
  [⟨"links", "links"⟩, ⟨"license", "license"⟩, ⟨"applet", "applet"⟩]

/-- The configuration of a site without a configuration file. -/
def SiteConfig.stock : SiteConfig :=
  { sections := stockSections }

end StaticSite
