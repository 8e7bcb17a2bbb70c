import StaticSite.Toml.Value

/-!
# Merging TOML values

An overlay is laid over a base. Two tables are merged key by key; in every other case the overlay
takes the place of the base as a whole, arrays included. Keys that only one side has are kept.
-/

namespace StaticSite.Toml.Value

mutual

/-- Lay the second value over the first. -/
def merge : Value → Value → Value
  | .table base, .table overlay => .table (mergeEntries base overlay)
  | _, overlay => overlay

/-- Lay entries over the entries of a table, one after the other. -/
def mergeEntries (base : List (String × Value)) :
    List (String × Value) → List (String × Value)
  | [] => base
  | (key, v) :: rest =>
    let merged := match base.lookup key with
      | some old => merge old v
      | none => v
    mergeEntries (Keyed.insert key merged base) rest

end

end StaticSite.Toml.Value
