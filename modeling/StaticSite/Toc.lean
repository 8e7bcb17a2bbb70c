import StaticSite.Config.Basic
import StaticSite.SortedMap
import StaticSite.Text.Quoted

/-!
# The table of contents

Which page each section lives on. Sections are listed in ascending order of their ids, by code
point, and an id is registered once: a second registration is refused even for the same page.
-/

namespace StaticSite

/-- A section that is declared twice. -/
inductive TocError
  | duplicateSection (id first second : String)
deriving DecidableEq, Repr

/-- The wording of a refusal. -/
def TocError.message : TocError → String
  | duplicateSection id first second =>
    String.join
      ["section ", Text.quoted id, " is declared on both ", Text.quoted first, " and ",
        Text.quoted second]

/-- The page of each section. -/
structure Toc where
  sections : SortedMap String := {}
deriving DecidableEq

namespace Toc

/-- The table without sections. -/
def empty : Toc := {}

/-- The page a section lives on. -/
def pageOf (t : Toc) (id : String) : Option String :=
  t.sections.get? id

/-- Whether the section is registered. -/
def contains (t : Toc) (id : String) : Bool :=
  (t.pageOf id).isSome

/-- The sections with their pages, ascending by id. -/
def entries (t : Toc) : List (String × String) :=
  t.sections.entries

/-- Register a section as living on a page: what the table is afterwards, and whether the
registration was refused. -/
def register (t : Toc) (id page : String) : Toc × Except TocError Unit :=
  match t.pageOf id with
  | some first => (t, .error (.duplicateSection id first page))
  | none => (⟨t.sections.insert id page⟩, .ok ())

/-- Register declarations in order; the first refusal ends the work. -/
def registerAll (t : Toc) : List (String × String) → Except TocError Toc
  | [] => .ok t
  | (id, page) :: rest =>
    match t.register id page with
    | (t', .ok ()) => t'.registerAll rest
    | (_, .error e) => .error e

/-- All declarations in order: the sections of the pages, then those of the configuration. -/
def declarations (pages : List (String × List String)) (extra : List SectionEntry) :
    List (String × String) :=
  (pages.flatMap fun (page, ids) => ids.map fun id => (id, page)) ++
    extra.map fun s => (s.id, s.page)

/-- The table of the sections that pages and configuration declare. -/
def build (pages : List (String × List String)) (extra : List SectionEntry) :
    Except TocError Toc :=
  empty.registerAll (declarations pages extra)

/-- The ids of the sections on one page, ascending. -/
def sectionsOn (t : Toc) (page : String) : List String :=
  (t.entries.filter fun e => e.2 == page).map Prod.fst

/-- The sections on pages that are not among `built`, ascending. -/
def outside (t : Toc) (built : List String) : List (String × String) :=
  t.entries.filter fun e => !built.contains e.2

/-- The number of sections. -/
def size (t : Toc) : Nat := t.entries.length

/-- Whether there is no section. -/
def isEmpty (t : Toc) : Bool := t.entries.isEmpty

end Toc

end StaticSite
