import StaticSite.Config.Basic
import StaticSite.Text.Decimal
import StaticSite.Text.Lines
import StaticSite.Text.Quoted
import StaticSite.Toml.Value

/-!
# Reading a configuration from a TOML value

Every setting is read by its kind, and nothing is passed over or converted: an unknown key, a value
of the wrong kind and an unknown choice are errors.

## Records

A record is a table from field names to values. Keys are looked at in ascending order, so of two
faults the one with the smaller key is reported. A record may also be an array with its fields in
the order of their declaration, where the last ones may be left out. What is left out keeps its
default, but a section entry has to name both its fields.

## Where an error is

An error carries the keys that lead to the value it is about. Positions in arrays leave no trace in
it.
-/

namespace StaticSite

open Toml (Value)

/-- What is wrong with a value. -/
inductive Misfit
  | unknownField (name : String) (expected : List String)
  | missingField (name : String)
  /-- A value of the wrong kind. -/
  | wrongKind (found expected : String)
  /-- An array of the wrong length. -/
  | wrongLength (found : Nat) (expected : String)
  | unknownChoice (name : String) (expected : List String)
  /-- A table in the place of a choice that does not have exactly one key. -/
  | notOneKey (isEmpty : Bool)
  /-- A choice with a value that is not empty. -/
  | choiceWithContent (expected found? : String)
deriving DecidableEq, Repr

/-- A text in backquotes. -/
def backquoted (s : String) : String :=
  String.join ["\x60", s, "\x60"]

/-- Names in backquotes: one after `expected`, two with `or`, more as a list. -/
def oneOf (names : List String) : String :=
  match names.map backquoted with
  | [a, b] => String.join ["expected ", a, " or ", b]
  | [a] => String.join ["expected ", a]
  | shown => String.join ["expected one of ", String.intercalate ", " shown]

/-- The wording of a misfit. -/
def Misfit.message : Misfit → String
  | unknownField name expected =>
    String.join ["unknown field ", backquoted name, ", ", oneOf expected]
  | missingField name => String.join ["missing field ", backquoted name]
  | wrongKind found expected => String.join ["invalid type: ", found, ", expected ", expected]
  | wrongLength found expected =>
    String.join ["invalid length ", Text.decimal found, ", expected ", expected]
  | unknownChoice name expected =>
    String.join ["unknown variant ", backquoted name, ", ", oneOf expected]
  | notOneKey true => "wanted exactly 1 element, found 0 elements"
  | notOneKey false => "wanted exactly 1 element, more than 1 element"
  | choiceWithContent expected found? =>
    String.join ("expected " :: expected :: if found? = "" then [] else [", found ", found?])

/-- A misfit and the keys that lead to it. -/
structure DecodeError where
  path : List String := []
  misfit : Misfit
deriving DecidableEq, Repr

/-- The wording of a decoding error; it ends with a line that names the keys, if there are any. -/
def DecodeError.message (e : DecodeError) : String :=
  Text.unlines <|
    e.misfit.message ::
      if e.path = [] then []
      else [String.join ["in ", backquoted (String.intercalate "." e.path)]]

/-- The result of reading a value. -/
abbrev Decoded (α : Type) := Except DecodeError α

namespace Decode

/-- Fail with a misfit at the value itself. -/
def fail {α : Type} (m : Misfit) : Decoded α := .error { misfit := m }

/-- Add a key in front of the path of an error. -/
def under {α : Type} (key : String) : Decoded α → Decoded α
  | .ok a => .ok a
  | .error e => .error { e with path := key :: e.path }

/-- What an error calls a value. -/
def describe : Value → String
  | .string s => String.join ["string ", Text.quoted s]
  | .integer n => String.join ["integer ", backquoted (Text.signedDecimal n)]
  | .float x =>
    let shown := if x.isInfinite || x.isNaN then x.text else x.plainText
    String.join ["floating point ", backquoted shown]
  | .boolean b => String.join ["boolean ", backquoted (if b then "true" else "false")]
  | .datetime d => String.join ["string ", Text.quoted d.text]
  | .array _ => "sequence"
  | .table _ => "map"

/-- What the content of a choice is called. -/
def kindName : Value → String
  | .string _ => "string"
  | .integer _ => "integer"
  | .float _ => "float"
  | .boolean _ => "boolean"
  | .datetime _ => "datetime"
  | .array _ => "array"
  | .table _ => "table"

/-- A text. A date/time gives its text. -/
def text : Value → Decoded String
  | .string s => .ok s
  | .datetime d => .ok d.text
  | v => fail (.wrongKind (describe v) "a string")

/-- The content of a choice, which has to be empty. -/
def emptyContent : Value → Decoded Unit
  | .array [] => .ok ()
  | .array _ => fail (.choiceWithContent "empty array" "")
  | .table [] => .ok ()
  | .table _ => fail (.choiceWithContent "empty table" "")
  | v => fail (.choiceWithContent "table" (kindName v))

/-- The choice with a given name. -/
def chosen {α : Type} (choices : List (String × α)) (name : String) : Decoded α :=
  match choices.lookup name with
  | some a => .ok a
  | none => fail (.unknownChoice name (choices.map Prod.fst))

/-- One of several choices: a name, or a table with the name as its only key and nothing below. -/
def choice {α : Type} (choices : List (String × α)) : Value → Decoded α
  | .string name => chosen choices name
  | .table [(name, content)] => do
    let a ← chosen choices name
    emptyContent content
    return a
  | .table [] => fail (.notOneKey true)
  | .table _ => fail (.notOneKey false)
  | _ => fail (.wrongKind "unit variant" "string only")

/-! ### Records -/

/-- A field of a record: its name, and how a value is put into it. -/
structure Field (α : Type) where
  name : String
  set : α → Value → Decoded α

/-- Put the entries of a table into a record, in order. -/
def setEntries {α : Type} (fields : List (Field α)) (r : α) :
    List (String × Value) → Decoded α
  | [] => .ok r
  | (key, v) :: rest =>
    match fields.find? fun f => f.name == key with
    | none => fail (.unknownField key (fields.map Field.name))
    | some f =>
      match under key (f.set r v) with
      | .error e => .error e
      | .ok r => setEntries fields r rest

/-- Put the items of an array into a record, in the order of its fields. -/
def setItems {α : Type} (length : Nat) : List (Field α) → α → List Value → Decoded α
  | _, r, [] => .ok r
  | [], _, _ :: _ => fail (.wrongLength length "fewer elements in array")
  | f :: fields, r, v :: rest =>
    match f.set r v with
    | .error e => .error e
    | .ok r => setItems length fields r rest

/-- A record with defaults for what is left out. -/
def record {α : Type} (name : String) (fields : List (Field α)) (initial : α) :
    Value → Decoded α
  | .table entries => setEntries fields initial entries
  | .array items => setItems items.length fields initial items
  | v => fail (.wrongKind (describe v) (String.join ["struct ", name]))

/-! ### The records of a configuration -/

/-- The fields of a project's identity. -/
def projectFields : List (Field Project) :=
  [
    ⟨"name", fun p v => (text v).map fun s => { p with name := s }⟩,
    ⟨"version", fun p v => (text v).map fun s => { p with version := s }⟩,
    ⟨"host_base_url", fun p v => (text v).map fun s => { p with hostBaseUrl := s }⟩,
    ⟨"archive_base_url", fun p v => (text v).map fun s => { p with archiveBaseUrl := some s }⟩,
    ⟨"archive_extension", fun p v => (text v).map fun s => { p with archiveExtension := s }⟩]

/-- A project's identity. -/
def project : Value → Decoded Project :=
  record "ProjectConfig" projectFields {}

/-- The fields of the shell's settings. -/
def siteFields : List (Field SiteMeta) :=
  [
    ⟨"title", fun m v => (text v).map fun s => { m with title := s }⟩,
    ⟨"tagline", fun m v => (text v).map fun s => { m with tagline := s }⟩,
    ⟨"lang", fun m v => (text v).map fun s => { m with lang := s }⟩]

/-- The shell's settings. -/
def site : Value → Decoded SiteMeta :=
  record "SiteMeta" siteFields {}

/-- The names of the anchor styles. -/
def anchorStyles : List (String × AnchorStyle) :=
  [("auto", .auto), ("fragment", .fragment), ("qualified", .qualified)]

/-- The names of what an unknown section does. -/
def unknownSectionChoices : List (String × UnknownSections) :=
  [("error", .error), ("warn", .warn)]

/-- The fields of the anchor policy. -/
def linkFields : List (Field LinkPolicy) :=
  [
    ⟨"anchor_style", fun l v => (choice anchorStyles v).map fun s => { l with anchorStyle := s }⟩,
    ⟨"unknown_sections", fun l v =>
      (choice unknownSectionChoices v).map fun u => { l with unknownSections := u }⟩]

/-- The anchor policy. -/
def links : Value → Decoded LinkPolicy :=
  record "LinkPolicy" linkFields {}

/-- A section entry of which fields may still be missing. -/
structure SectionDraft where
  id? : Option String := none
  page? : Option String := none

/-- The fields of a section entry. -/
def sectionFields : List (Field SectionDraft) :=
  [
    ⟨"id", fun d v => (text v).map fun s => { d with id? := some s }⟩,
    ⟨"page", fun d v => (text v).map fun s => { d with page? := some s }⟩]

/-- The entry, when no field is missing; an array is too short rather than without a field. -/
def SectionDraft.finish (v : Value) (d : SectionDraft) : Decoded SectionEntry :=
  match d.id?, d.page?, v with
  | some id, some page, _ => .ok { id, page }
  | _, _, .array items => fail (.wrongLength items.length "struct SectionEntry with 2 elements")
  | none, _, _ => fail (.missingField "id")
  | some _, none, _ => fail (.missingField "page")

/-- A section entry. -/
def sectionEntry (v : Value) : Decoded SectionEntry := do
  let d ← record "SectionEntry" sectionFields {} v
  d.finish v

/-- The declared sections. -/
def sections : Value → Decoded (List SectionEntry)
  | .array items => items.mapM sectionEntry
  | v => fail (.wrongKind (describe v) "a sequence")

/-- The fields of a configuration. -/
def configFields : List (Field SiteConfig) :=
  [
    ⟨"project", fun c v => (project v).map fun p => { c with project := p }⟩,
    ⟨"site", fun c v => (site v).map fun m => { c with site := m }⟩,
    ⟨"links", fun c v => (links v).map fun l => { c with links := l }⟩,
    ⟨"sections", fun c v => (sections v).map fun s => { c with sections := s }⟩]

/-- A configuration. -/
def config : Value → Decoded SiteConfig :=
  record "SiteConfig" configFields {}

end Decode

end StaticSite
