import StaticSite.Proofs.Toml.Merge

/-!
# Merged values along key paths

A path of keys is followed through tables. This module says what a merged value has at every path,
in terms of what the base and the overlay have there.

## The distinction that decides it

A path can lead to nothing in an overlay for two reasons, and `Value.at?` does not tell them apart.
It may come to a table without the next key: then the overlay has nothing to say about the path, and
the base is seen through it. Or it may come, before its end, to a value that is no table: then this
value has taken the place of whatever the base has there, and nothing is left to be followed. So an
overlay is followed with a result that keeps the two apart, `Value.Followed`.

## Main results

* `Value.at?_merge` — a merged value at a path, by where the path ends in the overlay
* `Value.merge_along_paths` — the cases one by one, and that no key is lost or invented
-/

namespace StaticSite

namespace Toml.Value

variable {v w b o : Value} {base overlay entries : List (String × Value)} {key : String}
  {path : List String}

/-- Where following a path ends. -/
inductive Followed
  /-- The path leads to a value. -/
  | reached (v : Value)
  /-- Before its end, the path comes to a value that is no table. -/
  | blocked
  /-- The path comes to a table without the next key. -/
  | missing

/-- Follow a path through tables. -/
def follow (v : Value) : List String → Followed
  | [] => .reached v
  | key :: path =>
    match v with
    | .table entries =>
      match entries.lookup key with
      | some inner => inner.follow path
      | none => .missing
    | _ => .blocked

/-- What is there when an overlay in which a path ends in this way is laid over something. -/
def Followed.over (f : Followed) (below : Option Value) : Option Value :=
  match f with
  | .reached v => some (v.laidOver below)
  | .blocked => none
  | .missing => below

/-! ### One key -/

theorem at?_table_cons (entries : List (String × Value)) (key : String) (path : List String) :
    (table entries).at? (key :: path) = (entries.lookup key).bind fun inner => inner.at? path := by
  rw [at?]
  cases entries.lookup key <;> rfl

theorem at?_cons_of_not_table (h : ¬v.IsTable) (key : String) (path : List String) :
    v.at? (key :: path) = none := by
  cases v with
  | table entries => exact absurd (isTable_table entries) h
  | _ => rfl

theorem follow_cons_of_some (h : entries.lookup key = some v) (path : List String) :
    (table entries).follow (key :: path) = v.follow path := by
  rw [follow, h]

theorem follow_cons_of_none (h : entries.lookup key = none) (path : List String) :
    (table entries).follow (key :: path) = .missing := by
  rw [follow, h]

theorem follow_cons_of_not_table (h : ¬v.IsTable) (key : String) (path : List String) :
    v.follow (key :: path) = .blocked := by
  cases v with
  | table entries => exact absurd (isTable_table entries) h
  | _ => rfl

/-! ### One value -/

/-- A path leads to what following it reaches. -/
theorem at?_eq_over_none (v : Value) (path : List String) :
    v.at? path = (v.follow path).over none := by
  induction path generalizing v with
  | nil => rfl
  | cons key path ih =>
    by_cases hv : v.IsTable
    · obtain ⟨entries, rfl⟩ := hv
      rw [at?_table_cons]
      cases hk : entries.lookup key with
      | none =>
        rw [follow_cons_of_none hk]
        rfl
      | some inner =>
        rw [follow_cons_of_some hk]
        exact ih inner
    · rw [at?_cons_of_not_table hv, follow_cons_of_not_table hv]
      rfl

theorem follow_eq_reached_iff : v.follow path = .reached w ↔ v.at? path = some w := by
  rw [at?_eq_over_none]
  cases v.follow path <;> simp [Followed.over, laidOver]

/-- Inside a value that is in order, every value is in order. -/
theorem WellFormed.at? (h : v.WellFormed) (hpath : v.at? path = some w) : w.WellFormed := by
  induction path generalizing v with
  | nil =>
    cases hpath
    exact h
  | cons key path ih =>
    by_cases hv : v.IsTable
    · obtain ⟨entries, rfl⟩ := hv
      rw [at?_table_cons, Option.bind_eq_some_iff] at hpath
      obtain ⟨inner, hk, hpath⟩ := hpath
      exact ih (h.of_lookup hk) hpath
    · rw [at?_cons_of_not_table hv] at hpath
      cases hpath

/-! ### Two values -/

/-- **A merged value at a path**: what the overlay reaches there is laid over what the base has
there; behind a value that blocks the path there is nothing; and where the overlay has no key the
base is seen. -/
theorem at?_merge (ho : o.WellFormed) (b : Value) (path : List String) :
    (merge b o).at? path = (o.follow path).over (b.at? path) := by
  induction path generalizing b o with
  | nil => rfl
  | cons key path ih =>
    by_cases htable : o.IsTable
    · obtain ⟨overlay, rfl⟩ := htable
      by_cases hbase : b.IsTable
      · obtain ⟨base, rfl⟩ := hbase
        rw [merge_table, at?_table_cons, at?_table_cons, lookup_mergeEntries ho.nodup_keys]
        cases hk : overlay.lookup key with
        | none =>
          rw [follow_cons_of_none hk]
          rfl
        | some v =>
          rw [follow_cons_of_some hk]
          cases base.lookup key with
          | none => exact at?_eq_over_none v path
          | some old => exact ih (ho.of_lookup hk) old
      · rw [merge_of_base_not_table hbase, at?_cons_of_not_table hbase]
        exact at?_eq_over_none _ _
    · rw [merge_of_overlay_not_table htable, at?_cons_of_not_table htable,
        follow_cons_of_not_table htable]
      rfl

theorem at?_merge_of_some (ho : o.WellFormed) (h : o.at? path = some v) (b : Value) :
    (merge b o).at? path = some (v.laidOver (b.at? path)) := by
  rw [at?_merge ho, follow_eq_reached_iff.2 h]
  rfl

/-- **Merging along key paths.** At every path the merged value has what the overlay has there,
unless both have a table; then it has a table, in order, with the keys of both and no others. It has
nothing where the path is blocked in the overlay, and what the base has where the overlay misses a
key. So the paths that lead somewhere are those of the overlay, and those of the base that the
overlay does not block. -/
theorem merge_along_paths (hb : b.WellFormed) (ho : o.WellFormed) (path : List String) :
    (∀ v, o.at? path = some v → (¬v.IsTable ∨ ∀ base, b.at? path ≠ some (.table base)) →
      (merge b o).at? path = some v) ∧
    (∀ base overlay, b.at? path = some (.table base) → o.at? path = some (.table overlay) →
      ∃ merged, (merge b o).at? path = some (.table merged) ∧ Keyed.Sorted merged ∧
        ∀ k, k ∈ merged.map Prod.fst ↔ k ∈ base.map Prod.fst ∨ k ∈ overlay.map Prod.fst) ∧
    (o.follow path = .blocked → (merge b o).at? path = none) ∧
    (o.follow path = .missing → (merge b o).at? path = b.at? path) ∧
    ((merge b o).at? path ≠ none ↔
      o.at? path ≠ none ∨ b.at? path ≠ none ∧ o.follow path ≠ .blocked) := by
  refine ⟨?_, ?_, ?_, ?_, ?_⟩
  · intro v hv hnot
    rw [at?_merge_of_some ho hv]
    rcases hnot with hnot | hnot
    · rw [laidOver_of_ne_table fun entries h => hnot ⟨entries, h⟩]
    · rw [laidOver_of_not_table hnot]
  · intro base overlay hbase hoverlay
    have hmerged : (merge b o).at? path = some (.table (mergeEntries base overlay)) := by
      rw [at?_merge_of_some ho hoverlay, hbase, laidOver_table]
    have hwell := (hb.merge ho).at? hmerged
    exact ⟨_, hmerged, (wellFormed_table_iff.1 hwell).1,
      fun k => mem_keys_mergeEntries (ho.at? hoverlay).nodup_keys⟩
  · intro hblocked
    rw [at?_merge ho, hblocked]
    rfl
  · intro hmissing
    rw [at?_merge ho, hmissing]
    rfl
  · rw [at?_merge ho, at?_eq_over_none o]
    cases o.follow path <;> simp [Followed.over]

/-- Settings with a table, an array and a number. -/
def baseSettings : Value :=
  .table
    [("links", .table [("names", .array [.integer 1, .integer 2]), ("style", .string "auto")]),
      ("version", .integer 1)]

/-- Changes that add a key, replace an array, and put a table in the place of the number. -/
def overlaySettings : Value :=
  .table
    [("links", .table [("names", .array [.integer 3]), ("warn", .boolean true)]),
      ("version", .table [("major", .integer 2)])]

theorem wellFormed_baseSettings : baseSettings.WellFormed := by
  simp only [baseSettings, WellFormed, EntriesWellFormed, AllWellFormed]
  decide

theorem wellFormed_overlaySettings : overlaySettings.WellFormed := by
  simp only [overlaySettings, WellFormed, EntriesWellFormed, AllWellFormed]
  decide

theorem merge_along_paths_settings :
    (∃ merged, (merge baseSettings overlaySettings).at? ["links"] = some (.table merged) ∧
      ∀ k, k ∈ merged.map Prod.fst ↔ k ∈ ["names", "style"] ∨ k ∈ ["names", "warn"]) ∧
    (merge baseSettings overlaySettings).at? ["links", "names"] = some (.array [.integer 3]) ∧
    (merge baseSettings overlaySettings).at? ["links", "style"] = some (.string "auto") ∧
    (merge baseSettings overlaySettings).at? ["version"] = some (.table [("major", .integer 2)]) ∧
    (merge baseSettings overlaySettings).at? ["links", "warn", "always"] = none := by
  have hpath := merge_along_paths wellFormed_baseSettings wellFormed_overlaySettings
  obtain ⟨-, hboth, -⟩ := hpath ["links"]
  obtain ⟨merged, hmerged, -, hkeys⟩ := hboth _ _ rfl rfl
  refine ⟨⟨merged, hmerged, hkeys⟩, ?_, ?_, ?_, ?_⟩
  · exact (hpath ["links", "names"]).1 _ rfl (.inl (by rintro ⟨entries, ⟨⟩⟩))
  · exact (hpath ["links", "style"]).2.2.2.1 rfl
  · exact (hpath ["version"]).1 _ rfl (.inr (by rintro entries ⟨⟩))
  · exact (hpath ["links", "warn", "always"]).2.2.1 rfl

end Toml.Value

end StaticSite
