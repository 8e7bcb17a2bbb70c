import StaticSite.Proofs.Toml.Paths

/-!
# Laying several values over each other

What merging satisfies as an operation on layers. Laying the same overlay again changes nothing, and
of three layers it may not matter which two are merged first.

## Why merging is not associative

Take a table, a value that is no table, and a table again. From the left, the value in the middle
takes the place of the first table and then the last table takes its place, so only the last table
is left. From the right, the last table takes the place of the value in the middle and is then
merged with the first. So the middle layer hides one table from the other, but only if it comes
before the last one. The same may happen at any path inside three tables.

It is the only thing that can happen: `Value.merge_assoc_iff` says that the two ways agree exactly
when, wherever the middle layer hides a table, the last table has all that merging would give it.

## Main results

* `Value.merge_assoc_iff` — when it does not matter which of three layers are merged first
* `Value.merge_self`, `Value.merge_merge_self` — a value laid over itself, and an overlay twice
* `Value.merge_layers` — the laws together
-/

namespace StaticSite

namespace Toml.Value

variable {a b c v : Value} {first middle last : List (String × Value)} {key : String}
  {path : List String}

/-- At the path the first and the last value have tables, and the middle one has something else. -/
def HidesAt (a b c : Value) (path : List String) (first last : List (String × Value)) : Prop :=
  a.at? path = some (.table first) ∧ c.at? path = some (.table last) ∧
    ∃ v, b.at? path = some v ∧ ¬v.IsTable

/-! ### Where a table is hidden -/

theorem hidesAt_nil (hb : ¬b.IsTable) : HidesAt (.table first) b (.table last) [] first last :=
  ⟨rfl, rfl, b, rfl, hb⟩

theorem not_hidesAt_nil (middle : List (String × Value)) :
    ¬HidesAt a (.table middle) c [] first last := by
  rintro ⟨-, -, v, hv, hnot⟩
  cases hv
  exact hnot (isTable_table middle)

/-- Below a key, a table is hidden by what the middle table has at the key. -/
theorem hidesAt_cons_iff {xs ys zs : List (String × Value)} :
    HidesAt (.table xs) (.table ys) (.table zs) (key :: path) first last ↔
      ∃ x y z, xs.lookup key = some x ∧ ys.lookup key = some y ∧ zs.lookup key = some z ∧
        HidesAt x y z path first last := by
  simp only [HidesAt, at?_table_cons, Option.bind_eq_some_iff]
  constructor
  · rintro ⟨⟨x, hx, hfirst⟩, ⟨z, hz, hlast⟩, v, ⟨y, hy, hmiddle⟩, hv⟩
    exact ⟨x, y, z, hx, hy, hz, hfirst, hlast, v, hmiddle, hv⟩
  · rintro ⟨x, y, z, hx, hy, hz, hfirst, hlast, v, hmiddle, hv⟩
    exact ⟨⟨x, hx, hfirst⟩, ⟨z, hz, hlast⟩, v, ⟨y, hy, hmiddle⟩, hv⟩

/-- Where the middle value hides a table, the two ways to merge show the last table alone and laid
over the first. -/
theorem at?_merge_of_hidesAt (hb : b.WellFormed) (hc : c.WellFormed)
    (h : HidesAt a b c path first last) :
    (merge (merge a b) c).at? path = some (.table last) ∧
      (merge a (merge b c)).at? path = some (.table (mergeEntries first last)) := by
  obtain ⟨hfirst, hlast, v, hmiddle, hv⟩ := h
  have hover : ∀ old?, v.laidOver old? = v :=
    laidOver_of_ne_table fun entries heq => hv ⟨entries, heq⟩
  have hunder : (table last).laidOver (some v) = table last :=
    laidOver_of_not_table fun entries heq => hv ⟨entries, Option.some.inj heq⟩
  have hright : (merge b c).at? path = some (.table last) := by
    rw [at?_merge_of_some hc hlast, hmiddle, hunder]
  constructor
  · rw [at?_merge_of_some hc hlast, at?_merge_of_some hb hmiddle, hover, hunder]
  · rw [at?_merge_of_some (hb.merge hc) hright, hfirst, laidOver_table]

/-! ### Three layers -/

/-- Three entries at a key of three tables: what is missing on one side is no hindrance. -/
theorem lookup_merge_assoc {xs ys zs : List (String × Value)} (hys : (ys.map Prod.fst).Nodup)
    (hzs : (zs.map Prod.fst).Nodup) (hyzs : ((mergeEntries ys zs).map Prod.fst).Nodup)
    (hall : ∀ x y z, xs.lookup key = some x → ys.lookup key = some y → zs.lookup key = some z →
      merge (merge x y) z = merge x (merge y z)) :
    (mergeEntries (mergeEntries xs ys) zs).lookup key =
      (mergeEntries xs (mergeEntries ys zs)).lookup key := by
  rw [lookup_mergeEntries hzs, lookup_mergeEntries hys, lookup_mergeEntries hyzs,
    lookup_mergeEntries hzs]
  cases hz : zs.lookup key with
  | none => simp
  | some z =>
    cases hy : ys.lookup key with
    | none => simp [laidOver]
    | some y =>
      cases hx : xs.lookup key with
      | none => simp [laidOver]
      | some x => exact congrArg some (hall x y z hx hy hz)

/-- If what is hidden would not have changed the last table, the two ways to merge agree. -/
theorem merge_assoc_of_hidesAt (ha : a.WellFormed) (hb : b.WellFormed) (hc : c.WellFormed)
    (h : ∀ path first last, HidesAt a b c path first last → mergeEntries first last = last) :
    merge (merge a b) c = merge a (merge b c) := by
  induction b using table_induction generalizing a c with
  | other b hmiddle =>
    by_cases hlast : c.IsTable
    · obtain ⟨last, rfl⟩ := hlast
      rw [merge_of_overlay_not_table hmiddle, merge_of_base_not_table hmiddle]
      by_cases hfirst : a.IsTable
      · obtain ⟨first, rfl⟩ := hfirst
        rw [merge_table, h [] first last (hidesAt_nil hmiddle)]
      · rw [merge_of_base_not_table hfirst]
    · rw [merge_of_overlay_not_table hlast, merge_of_overlay_not_table hlast,
        merge_of_overlay_not_table hlast]
  | table ys ih =>
    by_cases hlast : c.IsTable
    · obtain ⟨zs, rfl⟩ := hlast
      by_cases hfirst : a.IsTable
      · obtain ⟨xs, rfl⟩ := hfirst
        have hleft := (ha.merge hb).merge hc
        have hright := ha.merge (hb.merge hc)
        have hyzs := hb.merge hc
        rw [merge_table] at hyzs
        rw [merge_table, merge_table] at hleft hright
        rw [merge_table, merge_table, merge_table, merge_table]
        refine hleft.table_eq hright fun k => ?_
        refine lookup_merge_assoc hb.nodup_keys hc.nodup_keys hyzs.nodup_keys ?_
        intro x y z hx hy hz
        refine ih k y hy (ha.of_lookup hx) (hb.of_lookup hy) (hc.of_lookup hz) ?_
        intro path first last hhides
        exact h (k :: path) first last (hidesAt_cons_iff.2 ⟨x, y, z, hx, hy, hz, hhides⟩)
      · rw [merge_of_base_not_table hfirst, merge_table, merge_of_base_not_table hfirst]
    · rw [merge_of_overlay_not_table hlast, merge_of_overlay_not_table hlast,
        merge_of_overlay_not_table hlast]

/-- **When merging is associative**: exactly when no table that the middle layer hides would have
changed the last one. -/
theorem merge_assoc_iff (ha : a.WellFormed) (hb : b.WellFormed) (hc : c.WellFormed) :
    merge (merge a b) c = merge a (merge b c) ↔
      ∀ path first last, HidesAt a b c path first last → mergeEntries first last = last := by
  refine ⟨fun heq path first last hhides => ?_, merge_assoc_of_hidesAt ha hb hc⟩
  obtain ⟨hleft, hright⟩ := at?_merge_of_hidesAt hb hc hhides
  rw [heq, hright] at hleft
  exact Value.table.inj (Option.some.inj hleft)

/-- Text between two tables with different keys: from the left only the last key is left, from the
right there are both. -/
example :
    merge (merge (.table [("x", .integer 1)]) (.string "none")) (.table [("y", .integer 2)]) =
        .table [("y", .integer 2)] ∧
      merge (.table [("x", .integer 1)]) (merge (.string "none") (.table [("y", .integer 2)])) =
        .table [("x", .integer 1), ("y", .integer 2)] := by
  constructor <;> rfl

/-! ### The same layer twice -/

/-- A value laid over itself is the value. -/
theorem merge_self (hv : v.WellFormed) : merge v v = v := by
  induction v using table_induction with
  | other v hnot => exact merge_of_overlay_not_table hnot v
  | table entries ih =>
    have hmerged := hv.merge hv
    rw [merge_table] at hmerged ⊢
    refine hmerged.table_eq hv fun k => ?_
    rw [lookup_mergeEntries hv.nodup_keys]
    cases hk : entries.lookup k with
    | none => rfl
    | some w => exact congrArg some (ih k w hk (hv.of_lookup hk))

/-- Laying an overlay a second time changes nothing: the overlay hides no table from itself, so the
two times may be merged first. -/
theorem merge_merge_self (hb : b.WellFormed) (hc : c.WellFormed) :
    merge (merge b c) c = merge b c := by
  rw [(merge_assoc_iff hb hc hc).2, merge_self hc]
  rintro path first last ⟨-, hlast, v, hmiddle, hv⟩
  rw [hlast] at hmiddle
  exact absurd (Option.some.inj hmiddle ▸ isTable_table last) hv

/-- **The laws of layers.** Laying the same overlay a second time changes nothing. Of three layers
it does not matter which two are merged first, if at no path the middle one hides a table of the
first from one of the last; and if it does somewhere, it does not matter exactly when those tables
of the last layer have all that merging would give them. -/
theorem merge_layers :
    (∀ b o : Value, b.WellFormed → o.WellFormed → merge (merge b o) o = merge b o) ∧
    ∀ a b c : Value, a.WellFormed → b.WellFormed → c.WellFormed →
      ((∀ path first last, ¬HidesAt a b c path first last) →
        merge (merge a b) c = merge a (merge b c)) ∧
      (merge (merge a b) c = merge a (merge b c) ↔
        ∀ path first last, HidesAt a b c path first last → mergeEntries first last = last) := by
  refine ⟨fun b o => merge_merge_self, fun a b c ha hb hc => ⟨fun hnone => ?_, ?_⟩⟩
  · exact (merge_assoc_iff ha hb hc).2 fun path first last h => absurd h (hnone path first last)
  · exact merge_assoc_iff ha hb hc

/-- A layer between the two, with a number where the lower has a number and the upper a table. -/
def middleSettings : Value :=
  .table [("links", .table [("warn", .boolean false)]), ("version", .integer 2)]

theorem merge_layers_settings :
    merge (merge baseSettings middleSettings) overlaySettings =
        merge baseSettings (merge middleSettings overlaySettings) ∧
      merge (merge baseSettings overlaySettings) overlaySettings =
        merge baseSettings overlaySettings := by
  have hmiddle : middleSettings.WellFormed := by
    simp only [middleSettings, WellFormed, EntriesWellFormed]
    decide
  obtain ⟨hagain, hassoc⟩ := merge_layers
  refine ⟨?_, hagain _ _ wellFormed_baseSettings wellFormed_overlaySettings⟩
  refine (hassoc _ _ _ wellFormed_baseSettings hmiddle wellFormed_overlaySettings).1 ?_
  rintro (_ | ⟨key, path⟩) first last h
  · exact not_hidesAt_nil _ h
  · obtain ⟨x, y, z, hx, hy, hz, hinner⟩ := hidesAt_cons_iff.1 h
    rcases List.mem_cons.1 (Keyed.mem_of_lookup hy) with heq | hmem
    · cases heq
      cases hx
      cases hz
      rcases path with _ | ⟨key, path⟩
      · exact not_hidesAt_nil _ hinner
      · -- The tables of the two lower layers have no key in common.
        obtain ⟨x, y, z, hx, hy, -⟩ := hidesAt_cons_iff.1 hinner
        cases List.mem_singleton.1 (Keyed.mem_of_lookup hy)
        cases hx
    · cases List.mem_singleton.1 hmem
      cases hx
      have hnumber : (Value.integer 1).at? path = some (.table first) := hinner.1
      cases path <;> cases hnumber

end Toml.Value

end StaticSite
