import StaticSite.Config.Basic
import StaticSite.Text.Blank
import StaticSite.Text.Quoted

/-!
# Valid configurations

A configuration is valid when links can be composed from it: names without path separators,
absolute base URLs, a bare archive extension, and sections that can be written as a fragment.
`SiteConfig.validate` names the first fault in a fixed order.
-/

namespace StaticSite

/-- The faults of a configuration, in the order in which they are looked for. -/
inductive ConfigFault
  | emptyName
  | nameHoldsSeparator
  | emptyVersion
  | versionHoldsSeparatorOrBlank
  | relativeHost
  | relativeArchiveHost
  | archiveExtensionNotBare
  | badSectionId (id : String)
  | sectionWithoutPage (id : String)
deriving DecidableEq, Repr

/-- The wording of a fault. -/
def ConfigFault.message : ConfigFault → String
  | emptyName => "project.name must not be empty"
  | nameHoldsSeparator => "project.name must not contain path separators"
  | emptyVersion => "project.version must not be empty"
  | versionHoldsSeparatorOrBlank =>
    "project.version must not contain path separators or whitespace"
  | relativeHost => "project.host_base_url must be an absolute URL"
  | relativeArchiveHost => "project.archive_base_url must be an absolute URL"
  | archiveExtensionNotBare => "project.archive_extension must be a bare extension like \"jar\""
  | badSectionId id =>
    String.join ["section id ", Text.quoted id, " must be non-empty and contain no '#' or '/'"]
  | sectionWithoutPage id => String.join ["section ", Text.quoted id, " must name a page"]

/-- Whether the text holds a path separator of any system. -/
def holdsSeparator (s : String) : Bool :=
  Text.hasChar s '/' || Text.hasChar s '\\'

/-- Whether the text is a URL with a scheme. -/
def isAbsoluteUrl (s : String) : Bool :=
  Text.hasText s "://"

/-- The first fault of a project's identity. -/
def Project.fault? (p : Project) : Option ConfigFault :=
  if Text.allBlank p.name then
    some .emptyName
  else if holdsSeparator p.name then
    some .nameHoldsSeparator
  else if Text.allBlank p.version then
    some .emptyVersion
  else if holdsSeparator p.version || p.version.toList.any Text.isBlank then
    some .versionHoldsSeparatorOrBlank
  else if !isAbsoluteUrl p.hostBaseUrl then
    some .relativeHost
  else if p.archiveBaseUrl.any (fun url => url != "" && !isAbsoluteUrl url) then
    some .relativeArchiveHost
  else if p.archiveExtension == "" || p.archiveExtension.toList.head? == some '.' ||
      holdsSeparator p.archiveExtension then
    some .archiveExtensionNotBare
  else
    none

/-- The fault of a declared section. -/
def SectionEntry.fault? (s : SectionEntry) : Option ConfigFault :=
  if s.id == "" || Text.hasChar s.id '#' || Text.hasChar s.id '/' then
    some (.badSectionId s.id)
  else if s.page == "" then
    some (.sectionWithoutPage s.id)
  else
    none

/-- The first fault of a configuration: the project's, then those of the sections in order. -/
def SiteConfig.fault? (c : SiteConfig) : Option ConfigFault :=
  c.project.fault?.or (c.sections.findSome? SectionEntry.fault?)

/-- Accept a configuration without faults. -/
def SiteConfig.validate (c : SiteConfig) : Except ConfigFault Unit :=
  match c.fault? with
  | some fault => .error fault
  | none => .ok ()

end StaticSite
