import StaticSite.Build
import StaticSite.CommandLine.Arguments
import StaticSite.Config.Layer
import StaticSite.Config.StockFile
import StaticSite.Page.Stock
import StaticSite.Report.Lines
import StaticSite.Sha256
import StaticSite.Text.Lines

/-!
# Running a call

A call is a function from a file tree to a file tree and what the caller sees: an exit status, the
text on both outputs, and the log. Arguments that are no call give status 2, a failure gives status
1 and its message. Pages are rendered by a single worker.
-/

namespace StaticSite.CommandLine

/-- What a call leaves behind. -/
structure Result where
  tree : FileTree
  status : Nat := 0
  output : String := ""
  errorOutput : String := ""
  log : List String := []

/-- The lowest level that is logged. -/
def Call.level (c : Call) : Level :=
  if c.quiet then .error
  else if c.verbosity = 0 then .warn
  else if c.verbosity = 1 then .info
  else .debug

/-- The log lines of events down to a level. -/
def logLines (level : Level) (events : List Event) : List String :=
  (events.filter fun e => level.rank ≤ e.level.rank).map Event.line

/-- A failure as the caller sees it. -/
def failure (c : Call) (tree : FileTree) (events : List Event) (message : String) : Result :=
  { tree, status := 1, errorOutput := String.join ["error: ", message, "\n"],
    log := logLines c.level events }

/-- A success as the caller sees it. -/
def success (c : Call) (tree : FileTree) (events : List Event) (output : String) : Result :=
  { tree, output, log := logLines c.level events }

/-- Read the configuration of a call and go on with it. -/
def withConfig (c : Call) (tree : FileTree) (next : SiteConfig → List Event → Result) : Result :=
  match loadConfigAs tree ⟨c.config⟩ c.projectVersion? with
  | .error e => failure c tree [] e.message
  | .ok config =>
    next config [.configLoaded c.config config.project.name config.project.version]

/-- Build the site. -/
def runBuild (c : Call) (noCache json : Bool) (tree : FileTree) : Result :=
  withConfig c tree fun config events =>
    let outcome := Build.generate Sha256.ofText config Stock.pages ⟨c.output⟩ (!noCache) tree
    let events := events ++ outcome.events
    match outcome.result with
    | .error e => failure c outcome.tree events e.message
    | .ok report =>
      success c outcome.tree events <|
        if json then Text.unlines [report.toJson.pretty] else Text.unlines (Report.buildLines report)

/-- Render one page. -/
def runRender (c : Call) (slug : String) (tree : FileTree) : Result :=
  withConfig c tree fun config events =>
    match Site.renderOne config Stock.pages slug with
    | .error e => failure c tree events e.message
    | .ok content => success c tree (events ++ content.dangling.map .dangling) content.html

/-- Render every page and report. -/
def runCheck (c : Call) (tree : FileTree) : Result :=
  withConfig c tree fun config events =>
    match Site.assemble config Stock.pages with
    | .error e => failure c tree events e.message
    | .ok site =>
      match Build.check site Stock.pages with
      | (noted, .error e) => failure c tree (events ++ noted) e.message
      | (noted, .ok report) =>
        success c tree (events ++ noted) (Text.unlines (Report.checkLines report site.toc))

/-- Run a call. -/
def Call.run (c : Call) (tree : FileTree) : Result :=
  match c.command with
  | .build noCache json => runBuild c noCache json tree
  | .render slug => runRender c slug tree
  | .check => runCheck c tree
  | .genConfig => success c tree [] stockFile

/-- Run the call that arguments stand for. -/
def run (args : List String) (tree : FileTree) : Result :=
  match Call.ofArguments? args with
  | none => { tree, status := 2 }
  | some c => c.run tree

end StaticSite.CommandLine
