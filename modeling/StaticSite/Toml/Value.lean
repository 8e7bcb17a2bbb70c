import StaticSite.Decimal.Shortest
import StaticSite.SortedMap
import StaticSite.Toml.Datetime

/-!
# TOML values

The values of a TOML document. The entries of a table are kept in ascending order of the keys
(`Value.WellFormed`), so equal tables are equal values.
-/

namespace StaticSite.Toml

/-- A TOML value. -/
inductive Value
  | string (s : String)
  | integer (n : Int)
  | float (x : Decimal.Binary64)
  | boolean (b : Bool)
  | datetime (d : Datetime)
  | array (items : List Value)
  | table (entries : List (String × Value))
deriving Repr

namespace Value

mutual

/-- Every table inside the value has its keys in strictly ascending order. -/
def WellFormed : Value → Prop
  | .array items => AllWellFormed items
  | .table entries => Keyed.Sorted entries ∧ EntriesWellFormed entries
  | _ => True

/-- Every item is well formed. -/
def AllWellFormed : List Value → Prop
  | [] => True
  | v :: rest => WellFormed v ∧ AllWellFormed rest

/-- Every entry's value is well formed. -/
def EntriesWellFormed : List (String × Value) → Prop
  | [] => True
  | (_, v) :: rest => WellFormed v ∧ EntriesWellFormed rest

end

/-- The value that a path of keys leads to through tables. -/
def at? (v : Value) : List String → Option Value
  | [] => some v
  | key :: path =>
    match v with
    | .table entries =>
      match entries.lookup key with
      | some inner => inner.at? path
      | none => none
    | _ => none

/-- The table of a list of entries, later ones winning. -/
def tableOf (entries : List (String × Value)) : Value :=
  .table (entries.foldl (fun l e => Keyed.insert e.1 e.2 l) [])

end Value

end StaticSite.Toml
