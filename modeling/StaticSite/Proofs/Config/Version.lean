import StaticSite.Proofs.Config.Override
import StaticSite.Proofs.FileTree.Directory
import StaticSite.Proofs.Toml.Document

/-!
# Another version

A version can be given beside the configuration file. It is put into the configuration that was read
from the file, and the result is validated once more. This module says that the same comes of
writing the version into the file.

## The two ways

One way changes a record behind the reader, the other a table in front of it. They meet in what a
record is read as: a view of what there is at each key. A key that is put into the entries of the
file is put into the view (`Decode.Describes.record_merged_insert`), wherever else the view has its
values from, and nothing besides the project looks at the entries of the project.

## What the file has to have

The project has to be a table in the file, or not be there. A project that is an array has its
version by position, and laying a table over it would take the place of all of it.

## Main results

* `Overlay.Reads.withVersion` — an overlay with another version is read as the configuration with it
* `loadConfigAs_eq_edited` — a version beside the file and the version in the file come to the same
-/

namespace StaticSite

open Toml (Value)
open Toml.Value (entriesOf mergeEntries)

namespace Decode

variable {α : Type} {fields : List (Field α)} {view : (String → Option Value) → α} {r r' : α}
  {base entries : List (String × Value)}

/-- **One more entry**: the record has its value, and all else as before. -/
theorem record_merged_insert (h : Describes view fields) (hbase : IsBase fields base)
    (hsorted : Keyed.Sorted entries) {name : String} (initial : α)
    (hinitial : view (fun _ => none) = initial)
    (hread : record name fields initial (.table (mergeEntries (entriesOf base) entries)) = .ok r)
    {f : Field α} (hf : f ∈ fields) {v : Value} (hset : f.set r v = .ok r') :
    record name fields initial
      (.table (mergeEntries (entriesOf base) (Keyed.insert f.name v entries))) = .ok r' := by
  have haccepts : f.Accepts v := ⟨r, r', hset⟩
  have hinserted : Keyed.Sorted (Keyed.insert f.name v entries) := hsorted.insert _ _
  obtain ⟨htaken, rfl⟩ :=
    (record_merged_eq_ok_iff h hbase hsorted.nodup_keys initial hinitial).1 hread
  refine (record_merged_eq_ok_iff h hbase hinserted.nodup_keys initial hinitial).2 ⟨?_, ?_⟩
  · intro e he
    rcases Keyed.mem_insert he with rfl | he
    · exact ⟨f, hf, rfl, haccepts⟩
    · exact htaken e he
  · rw [h.set_eq f hf _ v haccepts] at hset
    refine (Except.ok.inj hset).symm.trans (congrArg view (funext fun k => ?_))
    rw [Keyed.lookup_insert]
    by_cases hk : k = f.name
    · rw [if_pos hk, if_pos hk, Option.some_or]
    · rw [if_neg hk, if_neg hk]

end Decode

/-- A configuration with another version of the project. -/
def SiteConfig.withVersion (c : SiteConfig) (version : String) : SiteConfig :=
  { c with project := { c.project with version } }

/-- The table that has a version of the project and nothing else. -/
def versionTable (version : String) : Value :=
  .table [("project", .table [("version", .string version)])]

namespace Overlay

variable {o : Overlay} {c : SiteConfig} {version : String}

/-- The project is a table, if it is there. -/
def HasProjectTable (o : Overlay) : Prop :=
  ∀ v, o.entries.lookup "project" = some v → ∃ entries, v = .table entries

theorem wellFormed_tableAt (o : Overlay) (setting : String) :
    (Value.table (o.tableAt setting)).WellFormed := by
  rw [tableAt]
  split
  next entries hlookup => exact o.wellFormed_of_mem (Keyed.mem_of_lookup hlookup)
  · exact Value.wellFormed_empty

/-- The entries of the project with another version. -/
def versionedProject (o : Overlay) (version : String) : List (String × Value) :=
  Keyed.insert "version" (.string version) (o.tableAt "project")

/-- The overlay with another version of the project. -/
def withVersion (o : Overlay) (version : String) : Overlay where
  entries := Keyed.insert "project" (.table (o.versionedProject version)) o.entries
  wellFormed := by
    have hproject := (o.wellFormed_tableAt "project").insert "version" (v := .string version) trivial
    exact o.wellFormed.insert "project" hproject

theorem entries_withVersion : (o.withVersion version).entries =
    Keyed.insert "project" (.table (o.versionedProject version)) o.entries := rfl

/-- **Laying the version over an overlay** is writing it into the project. -/
theorem merge_versionTable (h : o.HasProjectTable) :
    o.table.merge (versionTable version) = (o.withVersion version).table := by
  have hlaid : (Value.table [("version", .string version)]).laidOver (o.entries.lookup "project") =
      .table (o.versionedProject version) := by
    rw [versionedProject, tableAt]
    cases hlookup : o.entries.lookup "project" with
    | none => rfl
    | some v =>
      obtain ⟨inner, rfl⟩ := h v hlookup
      rw [Value.laidOver_table, Value.mergeEntries_singleton,
        Value.laidOver_of_ne_table (by rintro entries ⟨⟩)]
  rw [table, versionTable, Value.merge, Value.mergeEntries_singleton, hlaid, table,
    entries_withVersion]

theorem lookup_withVersion (k : String) :
    (o.withVersion version).entries.lookup k =
      if k = "project" then some (.table (o.versionedProject version))
      else o.entries.lookup k := by
  rw [entries_withVersion, Keyed.lookup_insert]

/-- The other settings are what they were. -/
theorem valueAt_withVersion {key : String} (hkey : key ≠ "project") (stock : Value) :
    (o.withVersion version).valueAt key stock = o.valueAt key stock := by
  rw [valueAt, valueAt, lookup_withVersion, if_neg hkey]

theorem valueAt_project_withVersion (base : List (String × Value)) :
    (o.withVersion version).valueAt "project" (.table base) =
      .table (mergeEntries base (o.versionedProject version)) := by
  rw [valueAt, lookup_withVersion, if_pos rfl]
  exact Value.laidOver_table _ base

/-- **Another version in the overlay is another version in the configuration.** -/
theorem Reads.withVersion (h : o.Reads c) (hproject : o.HasProjectTable) (version : String) :
    (o.withVersion version).Reads (c.withVersion version) := by
  constructor
  case keys =>
    intro key hkey
    obtain ⟨e, he, rfl⟩ := List.mem_map.1 hkey
    rcases Keyed.mem_insert he with rfl | he
    · simp [stockRoot]
    · exact h.keys _ (List.mem_map_of_mem he)
  case project =>
    have hread := h.project
    have hsorted : Keyed.Sorted (o.tableAt "project") :=
      (Value.wellFormed_table_iff.1 (o.wellFormed_tableAt "project")).1
    rw [valueAt_of_table hproject] at hread
    rw [valueAt_project_withVersion]
    have hfield : (⟨"version", fun p v => (Decode.text v).map fun s => { p with version := s }⟩ :
        Decode.Field Project) ∈ Decode.projectFields := by
      simp [Decode.projectFields]
    exact Decode.record_merged_insert Decode.describes_project isBase_stockProject hsorted {} rfl
      hread hfield rfl
  case site =>
    rw [valueAt_withVersion (by decide)]
    exact h.site
  case links =>
    rw [valueAt_withVersion (by decide)]
    exact h.links
  case sections =>
    rw [valueAt_withVersion (by decide)]
    exact h.sections

end Overlay

/-! ### Files -/

variable {t : FileTree} {p : Path} {overlay? : Option Value} {c : SiteConfig} {version : String}

/-- The table of a configuration file is an overlay; that of a missing file is empty. -/
theorem exists_overlay_of_loadTable (h : loadTable t p = .ok overlay?) :
    ∃ o : Overlay, overlay?.getD (.table []) = o.table ∧
      resolve stockTable overlay? = resolve stockTable (some o.table) := by
  rw [loadTable] at h
  split at h
  · split at h
    · cases h
    next text hread =>
      split at h
      next v hparse =>
        obtain ⟨entries, rfl, hwell⟩ := Toml.parse?_wellFormed hparse
        cases h
        exact ⟨⟨entries, hwell⟩, rfl, rfl⟩
      · cases h
  · cases h
    refine ⟨⟨[], Value.wellFormed_empty⟩, rfl, ?_⟩
    rw [resolve, resolve, stockTable_eq, Overlay.table, Value.merge, mergeEntries]

/-- The table of a file is what its text is read as. -/
theorem loadTable_of_text {text : String} {v : Value}
    (hfind : t.find? p = some (.file text.toUTF8)) (hparse : Toml.parse? text = some v) :
    loadTable t p = .ok (some v) := by
  have hholds : t.holds p = true := by rw [FileTree.holds, hfind, Option.isSome_some]
  rw [loadTable, if_pos hholds, FileTree.readText_eq_ok_iff.2 hfind]
  simp only [hparse]

theorem loadConfig_of_loadTable (h : loadTable t p = .ok overlay?) :
    loadConfig t p = resolve stockTable overlay? := by
  rw [loadConfig, h]

/-- With a version beside it, the configuration is validated once more and nothing else. -/
theorem loadConfigAs_of_loadConfig (h : loadConfig t p = .ok c) (version : String) :
    loadConfigAs t p (some version) =
      match (c.withVersion version).validate with
      | .error f => .error (.fault f)
      | .ok () => .ok (c.withVersion version) := by
  simp only [loadConfigAs, h]
  rfl

/-- **A version beside the file and the version in the file come to the same.** A file that is
refused is refused as it is. Of one that is not, the configuration with the version is what the file
with the version is read as, and it is refused for a fault or differs in the version alone. -/
theorem loadConfigAs_eq_edited (t : FileTree) (p : Path) (version : String) :
    (∀ e, loadConfig t p = .error e → loadConfigAs t p (some version) = .error e) ∧
      ∀ overlay? c, loadTable t p = .ok overlay? → loadConfig t p = .ok c →
        (∀ v, (overlay?.getD (.table [])).at? ["project"] = some v →
          ∃ entries, v = .table entries) →
        loadConfigAs t p (some version) =
            resolve stockTable
              (some ((overlay?.getD (.table [])).merge (versionTable version))) ∧
          (∀ e, loadConfigAs t p (some version) = .error e → ∃ f, e = .fault f) ∧
            ∀ c', loadConfigAs t p (some version) = .ok c' →
              loadConfigAs t p none = .ok c ∧
                c' = { c with project := { c.project with version } } := by
  constructor
  case left =>
    intro e h
    simp only [loadConfigAs, h]
  case right =>
    intro overlay? c htable hload hproject
    obtain ⟨o, ho, hresolve⟩ := exists_overlay_of_loadTable htable
    have hreads : o.Reads c := by
      rw [loadConfig_of_loadTable htable, hresolve, Overlay.resolve_eq] at hload
      exact Overlay.decode_merged_eq_ok_iff.1 (readConfig_eq_ok_iff.1 hload).1
    have htables : o.HasProjectTable := by
      intro v hv
      refine hproject v ?_
      rw [ho, Overlay.table, Value.at?, hv]
      rfl
    have hdecode : Decode.config (.table (o.withVersion version).merged) =
        .ok (c.withVersion version) :=
      Overlay.decode_merged_eq_ok_iff.2 (hreads.withVersion htables version)
    have hflag := loadConfigAs_of_loadConfig hload version
    refine ⟨?_, ?_, ?_⟩
    · rw [hflag, ho, Overlay.merge_versionTable htables, Overlay.resolve_eq]
      cases hvalid : (c.withVersion version).validate with
      | error f => exact (readConfig_of_fault hdecode hvalid).symm
      | ok _ => exact (readConfig_eq_ok_iff.2 ⟨hdecode, hvalid⟩).symm
    · intro e he
      rw [hflag] at he
      split at he
      next f hfault =>
        cases he
        exact ⟨f, rfl⟩
      · cases he
    · intro c' hc'
      rw [hflag] at hc'
      split at hc'
      · cases hc'
      · cases hc'
        simp only [loadConfigAs, hload]
        exact ⟨trivial, rfl⟩

/-- A tree with a configuration file that has a project without any settings. -/
def bareProjectTree : FileTree := ⟨[(⟨"project.toml"⟩, .file "[project]".toUTF8)]⟩

theorem loadTable_bareProject : loadTable bareProjectTree ⟨"project.toml"⟩ =
    .ok (some (.table [("project", .table [])])) := by
  have hlocate : bareProjectTree.locate ⟨"project.toml"⟩ = .ok ⟨"project.toml"⟩ := rfl
  have hfind : bareProjectTree.find? ⟨"project.toml"⟩ = some (.file "[project]".toUTF8) := by
    rw [FileTree.find?, hlocate]
    rfl
  exact loadTable_of_text hfind rfl

theorem loadConfigAs_eq_edited_bareProject :
    loadConfigAs bareProjectTree ⟨"project.toml"⟩ (some "2.0") =
        .ok { project := { version := "2.0" }, sections := stockSections } ∧
      loadConfigAs bareProjectTree ⟨"project.toml"⟩ (some "2 0") =
        .error (.fault .versionHoldsSeparatorOrBlank) := by
  have hload : loadConfig bareProjectTree ⟨"project.toml"⟩ = .ok .stock := by
    rw [loadConfig_of_loadTable loadTable_bareProject]
    rfl
  have hproject : ∀ v, (Value.table [("project", .table [])]).at? ["project"] = some v →
      ∃ entries, v = .table entries := by
    rintro v ⟨⟩
    exact ⟨[], rfl⟩
  have hedited := fun version =>
    ((loadConfigAs_eq_edited bareProjectTree ⟨"project.toml"⟩ version).2 _ _ loadTable_bareProject
      hload hproject).1
  rw [hedited, hedited]
  exact ⟨rfl, rfl⟩

end StaticSite
