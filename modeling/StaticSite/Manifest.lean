import StaticSite.FileTree
import StaticSite.Json.Printer
import StaticSite.Json.Reader
import StaticSite.SortedMap

/-!
# The manifest of a build

A build leaves a manifest in its output directory: the digest of what each file was written with.
The next build reads it and leaves the files alone whose content would be the same.

## What counts as a manifest

A manifest file is a JSON object with a version and entries, or an array of the two. Members with
other names are passed over, a member given twice is refused, and of two entries for one file the
later one holds. Anything else, and any other version, counts as no manifest: the build then starts
from the empty one.
-/

namespace StaticSite

/-- The name of the manifest in the output directory. -/
def manifestFile : String := ".pages-manifest.json"

/-- The version of the manifests that are written and read. -/
def manifestVersion : Nat := 1

/-- The digests of the files that earlier builds wrote. -/
structure Manifest where
  version : Nat := manifestVersion
  entries : SortedMap String := {}
deriving DecidableEq

namespace Manifest

/-- The manifest of a directory without one. -/
def empty : Manifest := {}

/-- Note the digest that a file was written with. -/
def insert (m : Manifest) (file digest : String) : Manifest :=
  { m with entries := m.entries.insert file digest }

/-- Whether a file was last written with the digest and is still there. -/
def isFresh (m : Manifest) (file digest : String) (dir : Path) (t : FileTree) : Bool :=
  m.entries.get? file == some digest && t.holds (dir.join file)

/-! ### The written form -/

/-- The manifest as a JSON value. -/
def toJson (m : Manifest) : Json.Value :=
  .object
    [("version", .nat m.version),
      ("entries", .object (m.entries.entries.map fun e => (e.1, .string e.2)))]

/-- The text of the manifest file. -/
def text (m : Manifest) : String :=
  m.toJson.pretty

/-- The entry that a member stands for. -/
def entryOfMember? (m : String × Json.Value) : Option (String × String) :=
  m.2.string?.map fun digest => (m.1, digest)

/-- The entries that a JSON object stands for. -/
def entriesOfJson? : Json.Value → Option (SortedMap String)
  | .object members => (members.mapM entryOfMember?).map SortedMap.ofList
  | _ => none

/-- The value of a member that has to occur exactly once. -/
def onlyMember? (key : String) (members : List (String × Json.Value)) : Option Json.Value :=
  match members.filter fun m => m.1 = key with
  | [m] => some m.2
  | _ => none

/-- The manifest that a JSON value stands for, of whatever version. -/
def ofJson? : Json.Value → Option Manifest
  | .object members => do
    let version ← (← onlyMember? "version" members).nat?
    let entries ← entriesOfJson? (← onlyMember? "entries" members)
    return { version, entries }
  | .array [version, entries] => do
    return { version := (← version.nat?), entries := (← entriesOfJson? entries) }
  | _ => none

/-- The manifest that a text holds, when it is of the version that is read. -/
def ofText? (s : String) : Option Manifest :=
  match (Json.read s).bind ofJson? with
  | some m => if m.version = manifestVersion then some m else none
  | none => none

/-! ### The manifest of a directory -/

/-- A manifest as it was found in a directory. -/
structure Loaded where
  manifest : Manifest
  /-- Whether there was a text in the manifest's place that is no manifest. -/
  discarded : Bool := false

/-- Read the manifest of a directory. -/
def load (t : FileTree) (dir : Path) : Loaded :=
  match t.readText (dir.join manifestFile) with
  | .error _ => { manifest := empty }
  | .ok s =>
    match ofText? s with
    | some manifest => { manifest }
    | none => { manifest := empty, discarded := true }

/-- Write the manifest of a directory. -/
def save (m : Manifest) (t : FileTree) (dir : Path) : Except FileError FileTree :=
  t.writeText (dir.join manifestFile) m.text

end Manifest

end StaticSite
