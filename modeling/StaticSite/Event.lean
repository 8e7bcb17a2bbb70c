import StaticSite.Page.Fragment
import StaticSite.Text.Decimal
import StaticSite.Text.Quoted

/-!
# Events

What a run notes on its way. An event has a level, and a log shows the events down to a level.
Names of pages and sections are shown quoted; paths, file names and versions as they are.
-/

namespace StaticSite

/-- How much an event matters, the least first. -/
inductive Level
  | debug
  | info
  | warn
  | error
deriving DecidableEq, Repr

/-- The rank of a level. -/
def Level.rank : Level → Nat
  | debug => 0
  | info => 1
  | warn => 2
  | error => 3

/-- The name of a level in a log line. -/
def Level.name : Level → String
  | debug => "DEBUG"
  | info => "INFO"
  | warn => "WARN"
  | error => "ERROR"

/-- Something that happened in a run. -/
inductive Event
  | configLoaded (config project version : String)
  | dangling (r : DanglingReference)
  | outsideSection (id page : String)
  | manifestDiscarded (path : String)
  | pageUnchanged (page : String)
  | pageWritten (page file : String) (bytes : Nat)
deriving DecidableEq, Repr

/-- The level of an event. -/
def Event.level : Event → Level
  | configLoaded .. => .debug
  | dangling _ => .warn
  | outsideSection .. => .warn
  | manifestDiscarded _ => .debug
  | pageUnchanged _ => .debug
  | pageWritten .. => .info

/-- What an event says, followed by its fields. -/
def Event.message : Event → String
  | configLoaded config project version =>
    String.join
      ["loaded project configuration config=", config, " project=", project, " version=", version]
  | dangling r =>
    String.join
      ["unknown section, emitting bare fragment section=", Text.quoted r.id,
        " page=", Text.quoted r.page]
  | outsideSection id page =>
    String.join
      ["section lives on a page this build does not write section=", Text.quoted id,
        " page=", Text.quoted page]
  | manifestDiscarded path => String.join ["discarding unreadable page manifest path=", path]
  | pageUnchanged page => String.join ["unchanged, skipping write page=", Text.quoted page]
  | pageWritten page file bytes =>
    String.join
      ["wrote page page=", Text.quoted page, " file=", file, " bytes=", Text.decimal bytes]

/-- The log line of an event. -/
def Event.line (e : Event) : String :=
  String.join [e.level.name, " ", e.message]

end StaticSite
