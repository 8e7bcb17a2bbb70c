import StaticSite.Anchor
import StaticSite.Config.Validity
import StaticSite.Nav
import StaticSite.Toc

/-!
# Composing links

Every link of a page comes from one of three functions, which read the project's identity, the
anchor policy, the table of contents and the slug of the page being rendered:

* `Links.external`: a path below the project host;
* `Links.internal`: a section of the table of contents;
* `Links.archive`: a released archive, whose text is its file name.
-/

namespace StaticSite

/-- An argument that no link can be composed from. -/
inductive LinkError
  | invalidPath (path : String)
  | invalidSuffix (suffix : String)
  | unknownSection (id : String)
deriving DecidableEq, Repr

/-- The wording of a link error. -/
def LinkError.message : LinkError → String
  | invalidPath path =>
    String.join ["invalid project path ", Text.quoted path, ": must be non-empty"]
  | invalidSuffix suffix =>
    String.join
      ["invalid archive suffix ", Text.quoted suffix, ": must not contain path separators"]
  | unknownSection id => String.join ["unknown section ", Text.quoted id]

/-- Join a base and a path with exactly one slash; a path without any character but slashes
cannot be joined. -/
def joinUrl (base path : String) : Option String :=
  let tail := Text.dropLeadingSlashes path
  if tail = "" then none else some (Text.dropTrailingSlashes base ++ "/" ++ tail)

/-- What the links of one page are composed from. -/
structure Links where
  project : Project
  policy : LinkPolicy
  toc : Toc
  /-- The slug of the page being rendered. -/
  currentPage : String
deriving DecidableEq

namespace Links

/-- A link to a path below the project host. -/
def external (l : Links) (path : String) : Except LinkError Anchor :=
  match joinUrl l.project.hostBase path with
  | some href => .ok { href }
  | none => .error (.invalidPath path)

/-- Whether a link to a section on `page` names the page's file. -/
def isQualified (l : Links) (page : String) : Bool :=
  match l.policy.anchorStyle with
  | .fragment => false
  | .qualified => true
  | .auto => page != l.currentPage

/-- A link to a section. The policy decides whether a section outside the table of contents is
an error or a bare fragment. -/
def internal (l : Links) (id : String) : Except LinkError Anchor :=
  match l.toc.pageOf id with
  | some page =>
    .ok { href := if l.isQualified page then pageFile page ++ "#" ++ id else "#" ++ id }
  | none =>
    match l.policy.unknownSections with
    | .error => .error (.unknownSection id)
    | .warn => .ok { href := "#" ++ id }

/-- A download link for the archive with the given qualifier. -/
def archive (l : Links) (suffix : String) : Except LinkError Anchor :=
  if holdsSeparator suffix then
    .error (.invalidSuffix suffix)
  else
    let file := l.project.archiveFileName suffix
    .ok { href := l.project.archiveBase ++ "/" ++ file, text? := some file }

end Links

end StaticSite
