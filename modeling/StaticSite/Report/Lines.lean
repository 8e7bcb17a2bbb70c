import StaticSite.Report.Basic
import StaticSite.Text.Decimal
import StaticSite.Toc

/-!
# Reports as text

A page is shown by its position and title, with its file and status on the same line and its
sections on an indented line below. A build ends with what was written; a check ends with the
sections that live outside the site and the numbers of pages and sections.
-/

namespace StaticSite

namespace Report

/-- A position with at least three digits. -/
def position (n : Nat) : String :=
  let digits := Nat.toDigits 10 n
  String.ofList (List.replicate (3 - digits.length) '0' ++ digits)

/-- A number of things; the name takes an `s` unless there is one. -/
def counted (n : Nat) (name : String) : String :=
  String.join [Text.decimal n, " ", name, if n = 1 then "" else "s"]

/-- What a page's line says about its status. -/
def statusLabel : PageStatus → String
  | .written => "written"
  | .unchanged => "unchanged"
  | .checked => "ok"

/-- The lines of the page at a position. -/
def pageLines (n : Nat) (p : PageReport) : List String :=
  String.join [position n, " ", p.title, " → ", p.file, " (", statusLabel p.status, ")"] ::
    if p.sections = [] then []
    else [String.join ["    Sections: ", String.intercalate ", " p.sections]]

/-- The lines of pages whose first is at a position. -/
def pagesLines : Nat → List PageReport → List String
  | _, [] => []
  | n, p :: rest => pageLines n p ++ pagesLines (n + 1) rest

/-- The lines that builds and checks begin with. -/
def headLines (r : SiteReport) : List String :=
  String.join [r.project, " ", r.version] :: pagesLines 1 r.pages

/-- Where a build wrote its pages, if it says so. -/
def destination : Option String → String
  | some dir => String.join [" → ", dir]
  | none => ""

/-- The last line of a build. -/
def buildSummary (r : SiteReport) : String :=
  String.join
    ["Generated ", counted r.pages.length "page", " (", Text.decimal (r.count .written),
      " written, ", Text.decimal (r.count .unchanged), " unchanged)", destination r.outputDir?]

/-- The lines of a build. -/
def buildLines (r : SiteReport) : List String :=
  headLines r ++ ["", buildSummary r]

/-- The line of a section outside the site. -/
def outsideLine (id page : String) : String :=
  String.join ["    ", id, " → ", pageFile page, "#", id, " (not built)"]

/-- The sections on pages that the report does not name. -/
def outsideSections (r : SiteReport) (toc : Toc) : List (String × String) :=
  toc.outside (r.pages.map PageReport.slug)

/-- The block of the sections outside the site, if there are any. -/
def outsideLines (r : SiteReport) (toc : Toc) : List String :=
  match outsideSections r toc with
  | [] => []
  | sections => "" :: "External sections" :: sections.map fun e => outsideLine e.1 e.2

/-- The last line of a check. -/
def checkSummary (r : SiteReport) (toc : Toc) : String :=
  String.join ["Checked ", counted r.pages.length "page", ", ", counted toc.size "section"]

/-- The lines of a check. -/
def checkLines (r : SiteReport) (toc : Toc) : List String :=
  headLines r ++ outsideLines r toc ++ ["", checkSummary r toc]

end Report

end StaticSite
