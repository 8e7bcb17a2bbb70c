import StaticSite.Config.Layer
import StaticSite.Proofs.Config.Decode
import StaticSite.Proofs.Toml.Merge

/-!
# Overlays of the stock settings

A configuration file is a table that is laid over the stock settings, and the result is read. This
module follows the settings through both: what is found at a key of the merged table, and what a
record is read as when an overlay has named some of its fields.

## Why a record is simple

The tables of the stock settings are flat: in a record there are texts only. So in a record the
overlay wins wherever it names a field, whatever the value is, and every entry of the overlay is
among the entries that are read (`record_merged_eq_ok_iff`).

## Main results

* `Decode.record_merged_eq_ok_iff` — what a record of the merged table is read as
* `Overlay.lookup_merged` — the merged table, key by key
* `Overlay.decode_merged_eq_ok_iff` — what the merged table is read as, setting by setting
* `validate_of_resolve` — what comes out of an overlay and any base is valid
-/

namespace StaticSite

open Toml (Value)
open Toml.Value (entriesOf mergeEntries)

namespace Decode

variable {α : Type} {fields : List (Field α)} {view : (String → Option Value) → α} {r : α}
  {base entries : List (String × Value)}

/-- The entries name fields, each once, and have texts that the fields take. -/
structure IsBase (fields : List (Field α)) (base : List (String × Value)) : Prop where
  nodup : (base.map Prod.fst).Nodup
  flat : ∀ e ∈ base, ∃ s, e.2 = .string s
  accepted : ∀ e ∈ base, ∃ f ∈ fields, f.name = e.1 ∧ f.Accepts e.2

/-- Over a base the entries of an overlay win. -/
theorem IsBase.lookup_merged (h : IsBase fields base) (hnodup : (entries.map Prod.fst).Nodup)
    (k : String) :
    (mergeEntries (entriesOf base) entries).lookup k = (entries.lookup k).or (base.lookup k) := by
  have hflat : ∀ k inner, (entriesOf base).lookup k ≠ some (.table inner) := by
    intro k inner hk
    rw [Value.lookup_entriesOf h.nodup] at hk
    obtain ⟨s, hs⟩ := h.flat _ (Keyed.mem_of_lookup hk)
    cases hs
  rw [Value.lookup_mergeEntries_of_flat hnodup hflat, Value.lookup_entriesOf h.nodup]

/-- **What a record is read as over a base**: every entry of the overlay has to be taken by its
field, and a field that the overlay does not name has what the base has. -/
theorem record_merged_eq_ok_iff (h : Describes view fields) (hbase : IsBase fields base)
    (hnodup : (entries.map Prod.fst).Nodup) {name : String} (initial : α)
    (hinitial : view (fun _ => none) = initial) :
    record name fields initial (.table (mergeEntries (entriesOf base) entries)) = .ok r ↔
      (∀ e ∈ entries, ∃ f ∈ fields, f.name = e.1 ∧ f.Accepts e.2) ∧
        r = view fun k => (entries.lookup k).or (base.lookup k) := by
  have hmerged : ((mergeEntries (entriesOf base) entries).map Prod.fst).Nodup :=
    (Value.sorted_mergeEntries (Value.sorted_entriesOf base)).nodup_keys
  rw [record_table_eq_ok_iff h hmerged initial hinitial]
  simp only [hbase.lookup_merged hnodup]
  refine and_congr_left fun _ => ⟨fun hall e he => ?_, fun hall e he => ?_⟩
  · refine hall e (Keyed.mem_of_lookup ?_)
    rw [hbase.lookup_merged hnodup, Keyed.lookup_of_mem hnodup he]
    rfl
  · have hlookup := Keyed.lookup_of_mem hmerged he
    rw [hbase.lookup_merged hnodup, Option.or_eq_some_iff] at hlookup
    rcases hlookup with hentry | ⟨-, hentry⟩
    · exact hall e (Keyed.mem_of_lookup hentry)
    · exact hbase.accepted e (Keyed.mem_of_lookup hentry)

/-- Where all fields take texts, the overlay has to name known fields and give them texts. -/
theorem record_merged_eq_ok_iff_of_texts (h : Describes view fields) (hbase : IsBase fields base)
    (htexts : ∀ f ∈ fields, ∀ v, f.Accepts v ↔ IsText v)
    (hnodup : (entries.map Prod.fst).Nodup) {name : String} (initial : α)
    (hinitial : view (fun _ => none) = initial) :
    record name fields initial (.table (mergeEntries (entriesOf base) entries)) = .ok r ↔
      (∀ e ∈ entries, e.1 ∈ fields.map Field.name ∧ IsText e.2) ∧
        r = view fun k => (entries.lookup k).or (base.lookup k) := by
  rw [record_merged_eq_ok_iff h hbase hnodup initial hinitial]
  simp only [taken_iff_of_texts htexts]

/-- Texts under the names of fields that take texts are a base. -/
theorem IsBase.of_texts (htexts : ∀ f ∈ fields, ∀ v, f.Accepts v ↔ IsText v)
    (hnodup : (base.map Prod.fst).Nodup) (hflat : ∀ e ∈ base, ∃ s, e.2 = .string s)
    (hknown : ∀ key ∈ base.map Prod.fst, key ∈ fields.map Field.name) : IsBase fields base where
  nodup := hnodup
  flat := hflat
  accepted := by
    intro e he
    obtain ⟨s, hs⟩ := hflat e he
    exact (taken_iff_of_texts htexts).2 ⟨hknown _ (List.mem_map_of_mem he), .inl ⟨s, hs⟩⟩

end Decode

/-! ### From a value to a configuration -/

theorem readConfig_eq_ok_iff {v : Value} {c : SiteConfig} :
    readConfig v = .ok c ↔ Decode.config v = .ok c ∧ c.validate = .ok () := by
  rw [readConfig]
  cases Decode.config v with
  | error e => simp
  | ok c' =>
    simp only [Except.ok.injEq]
    constructor
    · intro h
      split at h
      · cases h
      next hvalid =>
        cases h
        exact ⟨rfl, hvalid⟩
    · rintro ⟨rfl, hvalid⟩
      rw [hvalid]

/-- What is not read as a configuration is a decoding error, whatever else is wrong with it. -/
theorem readConfig_of_not_decoded {v : Value} (h : ∀ c, Decode.config v ≠ .ok c) :
    ∃ e, readConfig v = .error (.decode e) := by
  rw [readConfig]
  cases hdecode : Decode.config v with
  | error e => exact ⟨e, rfl⟩
  | ok c => exact absurd hdecode (h c)

theorem readConfig_of_fault {v : Value} {c : SiteConfig} {f : ConfigFault}
    (hdecode : Decode.config v = .ok c) (hfault : c.validate = .error f) :
    readConfig v = .error (.fault f) := by
  rw [readConfig, hdecode]
  simp only [hfault]

/-- **What comes out is valid**, whatever the base and the overlay are. -/
theorem validate_of_resolve {base : Value} {overlay? : Option Value} {c : SiteConfig}
    (h : resolve base overlay? = .ok c) : c.validate = .ok () := by
  cases overlay? with
  | none => exact (readConfig_eq_ok_iff.1 h).2
  | some overlay => exact (readConfig_eq_ok_iff.1 h).2

/-! ### The stock settings -/

/-- What the stock settings have of the project's identity. -/
def stockProject : List (String × Value) :=
  [
    ("name", .string ({} : Project).name),
    ("version", .string ({} : Project).version),
    ("host_base_url", .string ({} : Project).hostBaseUrl),
    ("archive_extension", .string ({} : Project).archiveExtension)]

/-- What the stock settings have of the shell's settings. -/
def stockSite : List (String × Value) :=
  [
    ("title", .string ({} : SiteMeta).title),
    ("tagline", .string ({} : SiteMeta).tagline),
    ("lang", .string ({} : SiteMeta).lang)]

/-- What the stock settings have of the anchor policy. -/
def stockLinks : List (String × Value) :=
  [
    ("anchor_style", .string ({} : LinkPolicy).anchorStyle.name),
    ("unknown_sections", .string ({} : LinkPolicy).unknownSections.name)]

/-- The stock settings by their keys. -/
def stockRoot : List (String × Value) :=
  [
    ("project", .table (entriesOf stockProject)),
    ("site", .table (entriesOf stockSite)),
    ("links", .table (entriesOf stockLinks)),
    ("sections", .array (stockSections.map SectionEntry.toToml))]

theorem stockTable_eq : stockTable = .table (entriesOf stockRoot) := rfl

theorem nodup_stockRoot : (stockRoot.map Prod.fst).Nodup := by decide

theorem isBase_stockProject : Decode.IsBase Decode.projectFields stockProject :=
  .of_texts Decode.accepts_projectFields (by decide) (by simp [stockProject]) (by decide)

theorem isBase_stockSite : Decode.IsBase Decode.siteFields stockSite :=
  .of_texts Decode.accepts_siteFields (by decide) (by simp [stockSite]) (by decide)

theorem isBase_stockLinks : Decode.IsBase Decode.linkFields stockLinks where
  nodup := by decide
  flat := by simp [stockLinks]
  accepted := by
    intro e he
    simp only [stockLinks, List.mem_cons, List.not_mem_nil, or_false] at he
    rcases he with rfl | rfl
    · exact Decode.taken_links_iff.2 (.inl ⟨rfl, .auto, rfl⟩)
    · exact Decode.taken_links_iff.2 (.inr ⟨rfl, .error, rfl⟩)

/-! ### Overlays -/

/-- The table of a configuration file: keys in order, at every depth. -/
structure Overlay where
  entries : List (String × Value)
  wellFormed : (Value.table entries).WellFormed

namespace Overlay

variable (o : Overlay)

/-- The overlay as a value. -/
def table : Value := .table o.entries

/-- The entries that are read: the overlay's over the stock settings. -/
def merged : List (String × Value) := mergeEntries (entriesOf stockRoot) o.entries

/-- What is read at a key where the stock settings have a value. -/
def valueAt (key : String) (stock : Value) : Value :=
  match o.entries.lookup key with
  | some v => v.laidOver (some stock)
  | none => stock

theorem resolve_eq : resolve stockTable (some o.table) = readConfig (.table o.merged) := by
  rw [resolve, stockTable_eq, table, Value.merge, merged]

theorem sorted_entries : Keyed.Sorted o.entries :=
  (Value.wellFormed_table_iff.1 o.wellFormed).1

theorem wellFormed_of_mem {e : String × Value} (he : e ∈ o.entries) : e.2.WellFormed :=
  (Value.wellFormed_table_iff.1 o.wellFormed).2 e he

theorem nodup_keys : (o.entries.map Prod.fst).Nodup := o.sorted_entries.nodup_keys

theorem nodup_merged : (o.merged.map Prod.fst).Nodup :=
  (Value.sorted_mergeEntries (Value.sorted_entriesOf stockRoot)).nodup_keys

/-- **The merged table, key by key.** -/
theorem lookup_merged (k : String) :
    o.merged.lookup k =
      ((o.entries.lookup k).map fun v => v.laidOver (stockRoot.lookup k)).or
        (stockRoot.lookup k) := by
  rw [merged, Value.lookup_mergeEntries o.nodup_keys, Value.lookup_entriesOf nodup_stockRoot]

/-- At a key of the stock settings. -/
theorem lookup_merged_of_stock {k : String} {stock : Value} (h : stockRoot.lookup k = some stock) :
    o.merged.lookup k = some (o.valueAt k stock) := by
  rw [lookup_merged, h, valueAt]
  cases o.entries.lookup k with
  | some v => rfl
  | none => rfl

/-- Every key that is read comes from the stock settings or from the overlay. -/
theorem mem_keys_of_lookup_merged {k : String} {v : Value} (h : o.merged.lookup k = some v) :
    k ∈ stockRoot.map Prod.fst ∨ k ∈ o.entries.map Prod.fst := by
  rw [lookup_merged, Option.or_eq_some_iff] at h
  rcases h with hentry | ⟨-, hstock⟩
  · obtain ⟨v, hv, -⟩ := Option.map_eq_some_iff.1 hentry
    exact .inr (Keyed.mem_keys_of_lookup hv)
  · exact .inl (Keyed.mem_keys_of_lookup hstock)

/-- The overlay is read as the configuration: its keys are known, and what lies at each of them is
read as that setting. -/
structure Reads (c : SiteConfig) : Prop where
  keys : ∀ key ∈ o.entries.map Prod.fst, key ∈ stockRoot.map Prod.fst
  project : Decode.project (o.valueAt "project" (.table (entriesOf stockProject))) = .ok c.project
  site : Decode.site (o.valueAt "site" (.table (entriesOf stockSite))) = .ok c.site
  links : Decode.links (o.valueAt "links" (.table (entriesOf stockLinks))) = .ok c.links
  sections : Decode.sections
    (o.valueAt "sections" (.array (stockSections.map SectionEntry.toToml))) = .ok c.sections

variable {o} {c : SiteConfig}

theorem lookup_merged_project : o.merged.lookup "project" =
    some (o.valueAt "project" (.table (entriesOf stockProject))) := o.lookup_merged_of_stock rfl

theorem lookup_merged_site : o.merged.lookup "site" =
    some (o.valueAt "site" (.table (entriesOf stockSite))) := o.lookup_merged_of_stock rfl

theorem lookup_merged_links : o.merged.lookup "links" =
    some (o.valueAt "links" (.table (entriesOf stockLinks))) := o.lookup_merged_of_stock rfl

theorem lookup_merged_sections : o.merged.lookup "sections" =
    some (o.valueAt "sections" (.array (stockSections.map SectionEntry.toToml))) :=
  o.lookup_merged_of_stock rfl

/-- What is taken entry by entry is read setting by setting. -/
theorem reads_of_taken
    (htaken : ∀ e ∈ o.merged, ∃ f ∈ Decode.configFields, f.name = e.1 ∧ f.Accepts e.2) :
    o.Reads (Decode.configView fun k => o.merged.lookup k) := by
  simp only [Decode.taken_config_iff] at htaken
  obtain ⟨p, hp⟩ := by simpa using htaken _ (Keyed.mem_of_lookup lookup_merged_project)
  obtain ⟨m, hm⟩ := by simpa using htaken _ (Keyed.mem_of_lookup lookup_merged_site)
  obtain ⟨l, hl⟩ := by simpa using htaken _ (Keyed.mem_of_lookup lookup_merged_links)
  obtain ⟨s, hs⟩ := by simpa using htaken _ (Keyed.mem_of_lookup lookup_merged_sections)
  constructor
  case keys =>
    intro key hkey
    obtain ⟨⟨key, v⟩, he, rfl⟩ := List.mem_map.1 hkey
    -- Merging drops no key of the overlay, so the key is among those that were taken.
    have hlookup : o.merged.lookup key = some (v.laidOver (stockRoot.lookup key)) := by
      rw [lookup_merged, Keyed.lookup_of_mem o.nodup_keys he]
      rfl
    rcases htaken _ (Keyed.mem_of_lookup hlookup) with ⟨rfl, -⟩ | ⟨rfl, -⟩ | ⟨rfl, -⟩ | ⟨rfl, -⟩
    all_goals simp [stockRoot]
  case project =>
    rw [Decode.configView, lookup_merged_project, Decode.readOr_of_ok hp]
    exact hp
  case site =>
    rw [Decode.configView, lookup_merged_site, Decode.readOr_of_ok hm]
    exact hm
  case links =>
    rw [Decode.configView, lookup_merged_links, Decode.readOr_of_ok hl]
    exact hl
  case sections =>
    rw [Decode.configView, lookup_merged_sections, Decode.readOr_of_ok hs]
    exact hs

/-- What is read setting by setting is taken entry by entry. -/
theorem Reads.taken (h : o.Reads c) :
    ∀ e ∈ o.merged, ∃ f ∈ Decode.configFields, f.name = e.1 ∧ f.Accepts e.2 := by
  rintro ⟨key, v⟩ he
  rw [Decode.taken_config_iff]
  have hlookup := Keyed.lookup_of_mem o.nodup_merged he
  have hkey : key ∈ stockRoot.map Prod.fst :=
    (o.mem_keys_of_lookup_merged hlookup).elim id (h.keys key)
  simp only [stockRoot, List.map_cons, List.map_nil, List.mem_cons, List.not_mem_nil, or_false]
    at hkey
  rcases hkey with rfl | rfl | rfl | rfl
  · cases lookup_merged_project.symm.trans hlookup
    exact .inl ⟨rfl, c.project, h.project⟩
  · cases lookup_merged_site.symm.trans hlookup
    exact .inr (.inl ⟨rfl, c.site, h.site⟩)
  · cases lookup_merged_links.symm.trans hlookup
    exact .inr (.inr (.inl ⟨rfl, c.links, h.links⟩))
  · cases lookup_merged_sections.symm.trans hlookup
    exact .inr (.inr (.inr ⟨rfl, c.sections, h.sections⟩))

theorem Reads.eq_view (h : o.Reads c) : c = Decode.configView fun k => o.merged.lookup k := by
  simp only [Decode.configView, lookup_merged_project, lookup_merged_site, lookup_merged_links,
    lookup_merged_sections, Decode.readOr_of_ok h.project, Decode.readOr_of_ok h.site,
    Decode.readOr_of_ok h.links, Decode.readOr_of_ok h.sections]

/-- **What the merged table is read as, setting by setting.** -/
theorem decode_merged_eq_ok_iff : Decode.config (.table o.merged) = .ok c ↔ o.Reads c := by
  rw [Decode.config, Decode.record_table_eq_ok_iff Decode.describes_config o.nodup_merged {} rfl]
  constructor
  · rintro ⟨htaken, rfl⟩
    exact reads_of_taken htaken
  · intro h
    exact ⟨h.taken, h.eq_view⟩

/-! ### One setting -/

/-- The settings there are, each with the keys of its table. -/
def settingKeys : List (String × List String) :=
  [
    ("project", ["name", "version", "host_base_url", "archive_base_url", "archive_extension"]),
    ("site", ["title", "tagline", "lang"]),
    ("links", ["anchor_style", "unknown_sections"]),
    ("sections", ["id", "page"])]

/-- The choices of the anchor policy, each with its names. -/
def policyNames : List (String × List String) :=
  [
    ("anchor_style", ["auto", "fragment", "qualified"]),
    ("unknown_sections", ["error", "warn"])]

theorem nodup_settingKeys : (settingKeys.map Prod.fst).Nodup := by decide

theorem nodup_policyNames : (policyNames.map Prod.fst).Nodup := by decide

/-- The overlay has the table for a setting: under its key, or among the items of `sections`. -/
inductive Holds (o : Overlay) (setting : String) (inner : List (String × Value)) : Prop
  | record : setting ∈ ["project", "site", "links"] → (setting, .table inner) ∈ o.entries →
    Holds o setting inner
  | item {items : List Value} : setting = "sections" → (setting, .array items) ∈ o.entries →
    .table inner ∈ items → Holds o setting inner

variable {setting : String} {inner : List (String × Value)}

theorem Holds.nodup_keys (h : o.Holds setting inner) : (inner.map Prod.fst).Nodup := by
  have hwell : (Value.table inner).WellFormed := by
    cases h with
    | record _ he => exact o.wellFormed_of_mem he
    | item _ he hitem =>
      exact Value.wellFormed_array_iff.1 (o.wellFormed_of_mem he) _ hitem
  exact (Value.wellFormed_table_iff.1 hwell).1.nodup_keys

theorem Holds.mem_entries (h : o.Holds setting inner) (hne : setting ≠ "sections") :
    (setting, .table inner) ∈ o.entries := by
  cases h with
  | record _ he => exact he
  | item hsetting => exact absurd hsetting hne

theorem Holds.exists_items (h : o.Holds "sections" inner) :
    ∃ items, ("sections", .array items) ∈ o.entries ∧ .table inner ∈ items := by
  cases h with
  | record hsetting => exact absurd hsetting (by decide)
  | item _ he hitem => exact ⟨_, he, hitem⟩

theorem valueAt_of_mem {key : String} {v : Value} (he : (key, v) ∈ o.entries) (stock : Value) :
    o.valueAt key stock = v.laidOver (some stock) := by
  rw [valueAt, Keyed.lookup_of_mem o.nodup_keys he]

theorem valueAt_table {key : String} {inner : List (String × Value)}
    (he : (key, .table inner) ∈ o.entries) (base : List (String × Value)) :
    o.valueAt key (.table base) = .table (mergeEntries base inner) := by
  rw [valueAt_of_mem he, Value.laidOver_table]

theorem valueAt_array {key : String} {items : List Value} (he : (key, .array items) ∈ o.entries)
    (stock : List Value) : o.valueAt key (.array stock) = .array items := by
  rw [valueAt_of_mem he, Value.laidOver_of_not_table]
  rintro entries ⟨⟩

end Overlay

end StaticSite
