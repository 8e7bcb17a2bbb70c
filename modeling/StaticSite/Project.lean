import StaticSite.Text.Search

/-!
# The identity of a project

Name, version and hosts of the project whose documentation is rendered. Every link a page emits is
composed from these five settings.

## Placeholders

A base URL may hold the placeholder `{project}`, which stands for the project's name. Expansion
happens when a base is read, so renaming a project moves its hosts along.
-/

namespace StaticSite

/-- Stands for the project's name inside a base URL. -/
def placeholder : String := "{project}"

/-- The project host when none is configured. -/
def stockHost : String := "https://sourceforge.net/projects/{project}"

/-- The archive server that belongs to `stockHost`. -/
def stockArchiveHost : String := "ftp://{project}.sourceforge.net/pub/{project}"

/-- What every link is composed from. -/
structure Project where
  name : String := "jode"
  version : String := "1.1"
  /-- The base of the project host. -/
  hostBaseUrl : String := stockHost
  /-- The base of the archive server; unset and empty both have a meaning, see
  `Project.archiveBaseSource`. -/
  archiveBaseUrl : Option String := none
  /-- The extension of the released archives, without the dot. -/
  archiveExtension : String := "jar"
deriving DecidableEq, Repr

namespace Project

/-- A base URL with the placeholder expanded and the slashes at its end removed. -/
def expand (p : Project) (url : String) : String :=
  Text.dropTrailingSlashes
    (String.ofList (Text.replaceAll placeholder.toList p.name.toList url.toList))

/-- The base that links into the project host start with. -/
def hostBase (p : Project) : String :=
  p.expand p.hostBaseUrl

/-- The URL the archive base is expanded from. The stock host has an archive server of its own;
any other host, and an empty setting, serves its archives itself. -/
def archiveBaseSource (p : Project) : String :=
  match p.archiveBaseUrl with
  | some url => if url = "" then p.hostBaseUrl else url
  | none => if p.hostBaseUrl = stockHost then stockArchiveHost else p.hostBaseUrl

/-- The base that links to released archives start with. -/
def archiveBase (p : Project) : String :=
  p.expand p.archiveBaseSource

/-- The file name of the archive with the given qualifier: `<name>-<version><suffix>.<ext>`. -/
def archiveFileName (p : Project) (suffix : String) : String :=
  String.join [p.name, "-", p.version, suffix, ".", p.archiveExtension]

end Project

end StaticSite
