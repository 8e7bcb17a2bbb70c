import StaticSite.Toml.Value

/-!
# Documents under construction

While a document is read, a table remembers how it came to be, because that decides what may still
be added to it:

* a table that a header names is *defined*, and is named once;
* a table on the way to the table that a header names is *implicit*, and a later header may define
  it;
* a table on the way of a dotted key is *dotted*; only dotted keys add to it, though headers may
  define tables below it.

Every operation gives `none` for an addition that is not allowed.
-/

namespace StaticSite.Toml

/-- How a table came to be. -/
inductive Origin
  | defined
  | implicit
  | dotted
deriving DecidableEq, Repr

/-- What a key of a document under construction stands for. -/
inductive Node
  /-- A finished value. -/
  | value (v : Value)
  | table (origin : Origin) (entries : List (String × Node))
  /-- An array of tables that headers add to: the earlier ones, latest first, and the last one. -/
  | tables (earlier : List (List (String × Node))) (last : List (String × Node))

namespace Node

mutual

/-- The finished value of a node. -/
def toValue : Node → Value
  | .value v => v
  | .table _ entries => .table (entriesToValue entries)
  | .tables earlier last =>
    .array ((tablesToValue earlier).reverse ++ [.table (entriesToValue last)])

/-- The finished entries of a table. -/
def entriesToValue : List (String × Node) → List (String × Value)
  | [] => []
  | (key, node) :: rest => (key, node.toValue) :: entriesToValue rest

/-- The finished tables of an array of tables. -/
def tablesToValue : List (List (String × Node)) → List Value
  | [] => []
  | entries :: rest => .table (entriesToValue entries) :: tablesToValue rest

end

/-- Add a value at a dotted key. -/
def addAt (entries : List (String × Node)) (key : String) (v : Value) :
    List String → Option (List (String × Node))
  | [] =>
    match entries.lookup key with
    | none => some (Keyed.insert key (.value v) entries)
    | some _ => none
  | first :: path =>
    match entries.lookup first with
    | none =>
      (addAt [] key v path).map fun inner => Keyed.insert first (.table .dotted inner) entries
    | some (.table .dotted inner) =>
      (addAt inner key v path).map fun inner => Keyed.insert first (.table .dotted inner) entries
    | some (.table .implicit inner) =>
      if path = [] then none
      else (addAt inner key v path).map fun inner =>
        Keyed.insert first (.table .implicit inner) entries
    | some (.tables earlier last) =>
      if path = [] then none
      else (addAt last key v path).map fun last => Keyed.insert first (.tables earlier last) entries
    | some (.table .defined _) => none
    | some (.value _) => none

/-- Define the table at a path, as a header does. -/
def defineTable (entries : List (String × Node)) (key : String) :
    List String → Option (List (String × Node))
  | [] =>
    match entries.lookup key with
    | none => some (Keyed.insert key (.table .defined []) entries)
    | some (.table .implicit inner) => some (Keyed.insert key (.table .defined inner) entries)
    | some _ => none
  | next :: path =>
    match entries.lookup key with
    | none =>
      (defineTable [] next path).map fun inner => Keyed.insert key (.table .implicit inner) entries
    | some (.table origin inner) =>
      (defineTable inner next path).map fun inner => Keyed.insert key (.table origin inner) entries
    | some (.tables earlier last) =>
      (defineTable last next path).map fun last => Keyed.insert key (.tables earlier last) entries
    | some (.value _) => none

/-- Begin a further table of the array of tables at a path, as a header in double brackets does. -/
def beginTable (entries : List (String × Node)) (key : String) :
    List String → Option (List (String × Node))
  | [] =>
    match entries.lookup key with
    | none => some (Keyed.insert key (.tables [] []) entries)
    | some (.tables earlier last) => some (Keyed.insert key (.tables (last :: earlier) []) entries)
    | some _ => none
  | next :: path =>
    match entries.lookup key with
    | none =>
      (beginTable [] next path).map fun inner => Keyed.insert key (.table .implicit inner) entries
    | some (.table origin inner) =>
      (beginTable inner next path).map fun inner => Keyed.insert key (.table origin inner) entries
    | some (.tables earlier last) =>
      (beginTable last next path).map fun last => Keyed.insert key (.tables earlier last) entries
    | some (.value _) => none

/-- Change the table at a path that headers have led to; of an array of tables, the last one. -/
def changeAt (f : List (String × Node) → Option (List (String × Node)))
    (entries : List (String × Node)) : List String → Option (List (String × Node))
  | [] => f entries
  | key :: path =>
    match entries.lookup key with
    | some (.table origin inner) =>
      (changeAt f inner path).map fun inner => Keyed.insert key (.table origin inner) entries
    | some (.tables earlier last) =>
      (changeAt f last path).map fun last => Keyed.insert key (.tables earlier last) entries
    | _ => none

end Node

end StaticSite.Toml
