import StaticSite.Json.Printer
import StaticSite.Nav

/-!
# Reports

What a build or a check has to say about each page, and the report's form as JSON, which can be
read back.
-/

namespace StaticSite

/-- What was done with a rendered page. -/
inductive PageStatus
  /-- Its file was written. -/
  | written
  /-- Its file holds it already. -/
  | unchanged
  /-- It was only rendered. -/
  | checked
deriving DecidableEq, Repr

/-- The name of a status in the JSON form. -/
def PageStatus.name : PageStatus → String
  | written => "written"
  | unchanged => "unchanged"
  | checked => "checked"

/-- The status with a given name. -/
def PageStatus.ofName? (s : String) : Option PageStatus :=
  [written, unchanged, checked].find? fun status => status.name == s

/-- What a report says about one page. -/
structure PageReport where
  slug : String
  title : String
  file : String
  sections : List String
  /-- The number of bytes of the page in UTF-8. -/
  bytes : Nat
  status : PageStatus
deriving DecidableEq, Repr

/-- The result of a build or a check. -/
structure SiteReport where
  project : String
  version : String
  /-- Where the pages were written, for a build. -/
  outputDir? : Option String := none
  pages : List PageReport
deriving DecidableEq, Repr

/-- The number of pages with a status. -/
def SiteReport.count (r : SiteReport) (status : PageStatus) : Nat :=
  (r.pages.filter fun p => p.status = status).length

/-! ### The JSON form -/

/-- A page's line of the report as a JSON value. -/
def PageReport.toJson (p : PageReport) : Json.Value :=
  .object
    [("slug", .string p.slug),
      ("title", .string p.title),
      ("file", .string p.file),
      ("sections", .array (p.sections.map .string)),
      ("bytes", .nat p.bytes),
      ("status", .string p.status.name)]

/-- The report as a JSON value; the output directory is left out when there is none. -/
def SiteReport.toJson (r : SiteReport) : Json.Value :=
  .object <|
    [("project", .string r.project), ("version", .string r.version)] ++
      (r.outputDir?.map fun dir => ("output_dir", .string dir)).toList ++
      [("pages", .array (r.pages.map PageReport.toJson))]

/-- The page's line that a JSON value stands for. -/
def PageReport.ofJson? (v : Json.Value) : Option PageReport := do
  return {
    slug := (← (← v.member? "slug").string?)
    title := (← (← v.member? "title").string?)
    file := (← (← v.member? "file").string?)
    sections := (← (← (← v.member? "sections").array?).mapM Json.Value.string?)
    bytes := (← (← v.member? "bytes").nat?)
    status := (← PageStatus.ofName? (← (← v.member? "status").string?)) }

/-- The report that a JSON value stands for. -/
def SiteReport.ofJson? (v : Json.Value) : Option SiteReport := do
  let outputDir? ← match v.member? "output_dir" with
    | some dir => dir.string?.map some
    | none => some none
  return {
    project := (← (← v.member? "project").string?)
    version := (← (← v.member? "version").string?)
    outputDir?
    pages := (← (← (← v.member? "pages").array?).mapM PageReport.ofJson?) }

end StaticSite
