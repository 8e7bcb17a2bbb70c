import StaticSite.Config.Decode
import StaticSite.Config.Validity
import StaticSite.FileTree
import StaticSite.Toml.Document
import StaticSite.Toml.Merge

/-!
# Layers of configuration

A configuration is read from a table in which the user's file lies over the stock settings, so a
file has to name only what it changes. The result is validated, and a missing file means the stock
configuration.
-/

namespace StaticSite

/-- Why there is no configuration. -/
inductive ConfigError
  | file (e : FileError)
  /-- The file is no TOML document. -/
  | syntaxError
  | decode (e : DecodeError)
  | fault (f : ConfigFault)
deriving DecidableEq, Repr

/-- The wording of a configuration error. A document that cannot be read has no further wording. -/
def ConfigError.message : ConfigError → String
  | file e => String.join ["IO error: ", e.message]
  | syntaxError => "TOML parse error: "
  | decode e => String.join ["TOML parse error: ", e.message]
  | fault f => String.join ["Config validation error: ", f.message]

/-! ### Configurations as tables -/

/-- The name of an anchor style. -/
def AnchorStyle.name : AnchorStyle → String
  | auto => "auto"
  | fragment => "fragment"
  | qualified => "qualified"

/-- The name of what an unknown section does. -/
def UnknownSections.name : UnknownSections → String
  | error => "error"
  | warn => "warn"

/-- A project's identity as a table; an unset archive base is left out. -/
def Project.toToml (p : Project) : Toml.Value :=
  .tableOf <|
    [("name", .string p.name), ("version", .string p.version),
      ("host_base_url", .string p.hostBaseUrl)] ++
      (p.archiveBaseUrl.map fun url => ("archive_base_url", .string url)).toList ++
      [("archive_extension", .string p.archiveExtension)]

/-- The shell's settings as a table. -/
def SiteMeta.toToml (m : SiteMeta) : Toml.Value :=
  .tableOf [("title", .string m.title), ("tagline", .string m.tagline), ("lang", .string m.lang)]

/-- The anchor policy as a table. -/
def LinkPolicy.toToml (l : LinkPolicy) : Toml.Value :=
  .tableOf
    [("anchor_style", .string l.anchorStyle.name),
      ("unknown_sections", .string l.unknownSections.name)]

/-- A section entry as a table. -/
def SectionEntry.toToml (s : SectionEntry) : Toml.Value :=
  .tableOf [("id", .string s.id), ("page", .string s.page)]

/-- A configuration as a table. -/
def SiteConfig.toToml (c : SiteConfig) : Toml.Value :=
  .tableOf
    [("project", c.project.toToml), ("site", c.site.toToml), ("links", c.links.toToml),
      ("sections", .array (c.sections.map SectionEntry.toToml))]

/-- The table that a user's file lies over. -/
def stockTable : Toml.Value := SiteConfig.stock.toToml

/-! ### Reading -/

/-- Read a table as a valid configuration. -/
def readConfig (v : Toml.Value) : Except ConfigError SiteConfig :=
  match Decode.config v with
  | .error e => .error (.decode e)
  | .ok c =>
    match c.validate with
    | .error f => .error (.fault f)
    | .ok () => .ok c

/-- Lay an overlay over a base, if there is one, and read the result. -/
def resolve (base : Toml.Value) (overlay? : Option Toml.Value) : Except ConfigError SiteConfig :=
  match overlay? with
  | some overlay => readConfig (base.merge overlay)
  | none => readConfig base

/-- The table in a configuration file; there is none when the file is missing. -/
def loadTable (t : FileTree) (p : Path) : Except ConfigError (Option Toml.Value) :=
  if t.holds p then
    match t.readText p with
    | .error e => .error (.file e)
    | .ok text =>
      match Toml.parse? text with
      | some v => .ok (some v)
      | none => .error .syntaxError
  else
    .ok none

/-- The configuration of a file over the stock settings. -/
def loadConfig (t : FileTree) (p : Path) : Except ConfigError SiteConfig :=
  match loadTable t p with
  | .error e => .error e
  | .ok overlay? => resolve stockTable overlay?

/-- The configuration of a file with another version of the project, if one is given. -/
def loadConfigAs (t : FileTree) (p : Path) (version? : Option String) :
    Except ConfigError SiteConfig :=
  match loadConfig t p, version? with
  | .error e, _ => .error e
  | .ok c, none => .ok c
  | .ok c, some version =>
    let c := { c with project := { c.project with version } }
    match c.validate with
    | .error f => .error (.fault f)
    | .ok () => .ok c

end StaticSite
