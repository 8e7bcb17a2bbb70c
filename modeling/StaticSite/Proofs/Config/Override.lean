import StaticSite.Proofs.Config.Overlay

/-!
# What an overlay changes

An overlay in the documented shape has tables of strings for the records and tables of strings as
sections. It changes exactly what it names: `Overlay.config` says field by field what the
configuration has to be, from the overlay alone, without merging or decoding anything.

## Which overlays are read

Of the documented ones those that are `Known`: their keys are fields, their policies are among the
choices, and their sections have both fields. What is left to refuse is a configuration that is not
valid.

## Main results

* `Overlay.reads_iff` — what a documented overlay is read as
* `Overlay.resolve_documented` — what comes of a documented overlay, error or configuration
-/

namespace StaticSite

open Toml (Value)
open Toml.Value (entriesOf mergeEntries)

/-- The anchor style with a name. -/
def AnchorStyle.ofName? : String → Option AnchorStyle
  | "auto" => some auto
  | "fragment" => some fragment
  | "qualified" => some qualified
  | _ => none

/-- What an unknown section does, by name. -/
def UnknownSections.ofName? : String → Option UnknownSections
  | "error" => some error
  | "warn" => some warn
  | _ => none

namespace Overlay

/-! ### Tables of strings -/

/-- All values are strings. -/
def AllStrings (entries : List (String × Value)) : Prop := ∀ e ∈ entries, ∃ s, e.2 = .string s

/-- The string at a key. -/
def stringAt? (entries : List (String × Value)) (key : String) : Option String :=
  match entries.lookup key with
  | some (.string s) => some s
  | _ => none

/-- A section entry, as a table has it. -/
def sectionOf : Value → SectionEntry
  | .table entries =>
    { id := (stringAt? entries "id").getD "", page := (stringAt? entries "page").getD "" }
  | _ => { id := "", page := "" }

variable {entries base : List (String × Value)} {k : String}

theorem mem_of_stringAt? {s : String} (h : stringAt? entries k = some s) :
    (k, .string s) ∈ entries := by
  rw [stringAt?] at h
  split at h
  next hlookup =>
    cases h
    exact Keyed.mem_of_lookup hlookup
  · cases h

theorem stringAt?_of_mem (hnodup : (entries.map Prod.fst).Nodup) {s : String}
    (h : (k, .string s) ∈ entries) : stringAt? entries k = some s := by
  rw [stringAt?, Keyed.lookup_of_mem hnodup h]

theorem AllStrings.lookup_cases (h : AllStrings entries) (k : String) :
    entries.lookup k = none ∧ stringAt? entries k = none ∨
      ∃ s, entries.lookup k = some (.string s) ∧ stringAt? entries k = some s := by
  rw [stringAt?]
  cases hlookup : entries.lookup k with
  | none => exact .inl ⟨rfl, rfl⟩
  | some v =>
    obtain ⟨s, hs⟩ := h _ (Keyed.mem_of_lookup hlookup)
    cases hs
    exact .inr ⟨s, rfl, rfl⟩

/-- What a text field is read as, over a stock text. -/
theorem AllStrings.readOr_text (h : AllStrings entries) {stock : String}
    (hbase : base.lookup k = some (.string stock)) :
    Decode.readOr Decode.text stock ((entries.lookup k).or (base.lookup k)) =
      (stringAt? entries k).getD stock := by
  rw [hbase]
  rcases h.lookup_cases k with ⟨hlookup, hstring⟩ | ⟨s, hlookup, hstring⟩
  · rw [hlookup, hstring]
    rfl
  · rw [hlookup, hstring]
    rfl

/-- What a text field without a stock text is read as. -/
theorem AllStrings.readOr_some_text (h : AllStrings entries) (hbase : base.lookup k = none) :
    Decode.readOr (fun v => (Decode.text v).map some) none
        ((entries.lookup k).or (base.lookup k)) = stringAt? entries k := by
  rw [hbase]
  rcases h.lookup_cases k with ⟨hlookup, hstring⟩ | ⟨s, hlookup, hstring⟩
  · rw [hlookup, hstring]
    rfl
  · rw [hlookup, hstring]
    rfl

/-- What a choice is read as, over the name of a stock choice. -/
theorem AllStrings.readOr_choice (h : AllStrings entries) {α : Type} {choices : List (String × α)}
    {stock : α} {name : String} (hbase : base.lookup k = some (.string name))
    (hname : choices.lookup name = some stock) :
    Decode.readOr (Decode.choice choices) stock ((entries.lookup k).or (base.lookup k)) =
      ((stringAt? entries k).bind fun s => choices.lookup s).getD stock := by
  have hchosen : ∀ s, Decode.readOr (Decode.choice choices) stock (some (.string s)) =
      (choices.lookup s).getD stock := by
    intro s
    rw [Decode.readOr, Decode.choice, Decode.chosen]
    cases choices.lookup s with
    | none => rfl
    | some c => rfl
  rw [hbase]
  rcases h.lookup_cases k with ⟨hlookup, hstring⟩ | ⟨s, hlookup, hstring⟩
  · rw [hlookup, hstring]
    exact (hchosen name).trans (by rw [hname]; rfl)
  · rw [hlookup, hstring]
    exact hchosen s

/-- What there is at a key, as a text. -/
theorem AllStrings.exists_text_iff (h : AllStrings entries) {t : String} :
    (∃ v, entries.lookup k = some v ∧ Decode.text v = .ok t) ↔ stringAt? entries k = some t := by
  rcases h.lookup_cases k with ⟨hlookup, hstring⟩ | ⟨s, hlookup, hstring⟩
  · simp [hlookup, hstring]
  · simp [hlookup, hstring, Decode.text]

theorem AllStrings.isText (h : AllStrings entries) : ∀ e ∈ entries, Decode.IsText e.2 :=
  fun e he => .inl (h e he)

/-- There is a string at each key. -/
theorem AllStrings.isSome_stringAt?_iff (h : AllStrings entries) :
    (stringAt? entries k).isSome ↔ k ∈ entries.map Prod.fst := by
  rw [← Keyed.isSome_lookup_iff]
  rcases h.lookup_cases k with ⟨hlookup, hstring⟩ | ⟨s, hlookup, hstring⟩
  · simp [hlookup, hstring]
  · simp [hlookup, hstring]

/-- **A section of strings** is read when it has exactly its two fields. -/
theorem AllStrings.sectionEntry_eq_ok_iff (h : AllStrings entries)
    (hnodup : (entries.map Prod.fst).Nodup) {s : SectionEntry} :
    Decode.sectionEntry (.table entries) = .ok s ↔
      (∀ key, key ∈ entries.map Prod.fst ↔ key ∈ ["id", "page"]) ∧
        s = sectionOf (.table entries) := by
  rw [Decode.sectionEntry_table_eq_ok_iff hnodup, h.exists_text_iff, h.exists_text_iff, sectionOf]
  constructor
  · rintro ⟨hknown, hid, hpage⟩
    constructor
    · intro key
      constructor
      · intro hkey
        obtain ⟨e, he, rfl⟩ := List.mem_map.1 hkey
        exact (hknown e he).1
      · intro hkey
        simp only [List.mem_cons, List.not_mem_nil, or_false] at hkey
        rcases hkey with rfl | rfl
        · exact h.isSome_stringAt?_iff.1 (hid ▸ rfl)
        · exact h.isSome_stringAt?_iff.1 (hpage ▸ rfl)
    · rw [hid, hpage]
      rfl
  · rintro ⟨hkeys, rfl⟩
    have hid := h.isSome_stringAt?_iff.2 ((hkeys "id").2 (by decide))
    have hpage := h.isSome_stringAt?_iff.2 ((hkeys "page").2 (by decide))
    obtain ⟨i, hi⟩ := Option.isSome_iff_exists.1 hid
    obtain ⟨p, hp⟩ := Option.isSome_iff_exists.1 hpage
    rw [hi, hp]
    refine ⟨fun e he => ⟨?_, h.isText e he⟩, rfl, rfl⟩
    exact (hkeys e.1).1 (List.mem_map_of_mem he)

/-- The anchor policy takes a string when it is a name of the choice. -/
theorem taken_policy_iff {key name : String} :
    (∃ f ∈ Decode.linkFields, f.name = key ∧ f.Accepts (.string name)) ↔
      ∃ names, (key, names) ∈ policyNames ∧ name ∈ names := by
  rw [Decode.taken_links_iff, Decode.exists_choice_string_iff, Decode.exists_choice_string_iff]
  constructor
  · rintro (⟨rfl, hname⟩ | ⟨rfl, hname⟩)
    · exact ⟨_, List.mem_cons_self, hname⟩
    · exact ⟨_, List.mem_cons_of_mem _ List.mem_cons_self, hname⟩
  · rintro ⟨names, hnames, hname⟩
    simp only [policyNames, List.mem_cons, Prod.mk.injEq, List.not_mem_nil, or_false] at hnames
    rcases hnames with ⟨rfl, rfl⟩ | ⟨rfl, rfl⟩
    · exact .inl ⟨rfl, hname⟩
    · exact .inr ⟨rfl, hname⟩

/-- **The anchor policy of strings** is read when its keys are known and its strings are names. -/
theorem AllStrings.taken_links_iff (h : AllStrings entries)
    (hnodup : (entries.map Prod.fst).Nodup) :
    (∀ e ∈ entries, ∃ f ∈ Decode.linkFields, f.name = e.1 ∧ f.Accepts e.2) ↔
      (∀ e ∈ entries, e.1 ∈ policyNames.map Prod.fst) ∧
        ∀ key names, (key, names) ∈ policyNames → ∀ name, stringAt? entries key = some name →
          name ∈ names := by
  constructor
  · intro htaken
    constructor
    · rintro ⟨key, v⟩ he
      obtain ⟨name, rfl⟩ := h _ he
      obtain ⟨names, hnames, -⟩ := taken_policy_iff.1 (htaken _ he)
      exact List.mem_map_of_mem (f := Prod.fst) hnames
    · intro key names hnames name hname
      -- The choices have distinct keys, so the names that take the string are those of the key.
      obtain ⟨names', hnames', hmem⟩ :=
        taken_policy_iff.1 (htaken (key, .string name) (mem_of_stringAt? hname))
      cases Keyed.value_unique nodup_policyNames hnames hnames'
      exact hmem
  · rintro ⟨hkeys, hchoices⟩ ⟨key, v⟩ he
    obtain ⟨name, rfl⟩ := h _ he
    obtain ⟨⟨_, names⟩, hnames, rfl⟩ := List.mem_map.1 (hkeys _ he)
    have hname := stringAt?_of_mem hnodup he
    exact taken_policy_iff.2 ⟨names, hnames, hchoices _ names hnames name hname⟩

/-! ### Documented overlays -/

variable (o : Overlay)

/-- A table of strings. -/
def IsStringTable (v : Value) : Prop := ∃ entries, v = .table entries ∧ AllStrings entries

/-- The documented shape: tables of strings for the records, tables of strings as sections, and
anything under other keys. -/
structure Documented : Prop where
  records : ∀ setting ∈ ["project", "site", "links"], ∀ v, (setting, v) ∈ o.entries →
    IsStringTable v
  sections : ∀ v, ("sections", v) ∈ o.entries →
    ∃ items, v = .array items ∧ ∀ item ∈ items, IsStringTable item

/-- The entries that the overlay has for a record; there are none without a table for it. -/
def tableAt (setting : String) : List (String × Value) :=
  match o.entries.lookup setting with
  | some (.table entries) => entries
  | _ => []

/-- The string that the overlay has for a field of a record. -/
def text? (setting key : String) : Option String := stringAt? (o.tableAt setting) key

/-- What the overlay makes of the configuration: what it names, and the stock settings for the
rest. -/
def config : SiteConfig where
  project :=
    { name := (o.text? "project" "name").getD SiteConfig.stock.project.name
      version := (o.text? "project" "version").getD SiteConfig.stock.project.version
      hostBaseUrl := (o.text? "project" "host_base_url").getD SiteConfig.stock.project.hostBaseUrl
      archiveBaseUrl := o.text? "project" "archive_base_url"
      archiveExtension :=
        (o.text? "project" "archive_extension").getD SiteConfig.stock.project.archiveExtension }
  site :=
    { title := (o.text? "site" "title").getD SiteConfig.stock.site.title
      tagline := (o.text? "site" "tagline").getD SiteConfig.stock.site.tagline
      lang := (o.text? "site" "lang").getD SiteConfig.stock.site.lang }
  links :=
    { anchorStyle :=
        ((o.text? "links" "anchor_style").bind AnchorStyle.ofName?).getD
          SiteConfig.stock.links.anchorStyle
      unknownSections :=
        ((o.text? "links" "unknown_sections").bind UnknownSections.ofName?).getD
          SiteConfig.stock.links.unknownSections }
  sections :=
    match o.entries.lookup "sections" with
    | some (.array items) => items.map sectionOf
    | _ => SiteConfig.stock.sections

/-- Everything the overlay names is known: its settings, their fields, its policies, and sections
with both their fields. -/
structure Known : Prop where
  settings : ∀ e ∈ o.entries, e.1 ∈ settingKeys.map Prod.fst
  fields : ∀ setting ∈ ["project", "site", "links"], ∀ keys, (setting, keys) ∈ settingKeys →
    ∀ e ∈ o.tableAt setting, e.1 ∈ keys
  policies : ∀ key names, (key, names) ∈ policyNames → ∀ name, o.text? "links" key = some name →
    name ∈ names
  sections : ∀ entries, o.Holds "sections" entries →
    ∀ key, key ∈ entries.map Prod.fst ↔ key ∈ ["id", "page"]

variable {o} {c : SiteConfig} {setting : String}

/-- **A record is read from the entries of the overlay over the stock entries**, when the overlay has
a table for it or nothing. -/
theorem valueAt_of_table
    (h : ∀ v, o.entries.lookup setting = some v → ∃ entries, v = .table entries)
    (base : List (String × Value)) :
    o.valueAt setting (.table base) = .table (mergeEntries base (o.tableAt setting)) := by
  rw [valueAt, tableAt]
  cases hlookup : o.entries.lookup setting with
  | none => rw [mergeEntries]
  | some v =>
    obtain ⟨entries, rfl⟩ := h v hlookup
    exact Value.laidOver_table entries base

theorem Documented.valueAt_record (h : o.Documented) (hs : setting ∈ ["project", "site", "links"])
    (base : List (String × Value)) :
    o.valueAt setting (.table base) = .table (mergeEntries base (o.tableAt setting)) := by
  refine valueAt_of_table (fun v hlookup => ?_) base
  obtain ⟨entries, rfl, -⟩ := h.records setting hs v (Keyed.mem_of_lookup hlookup)
  exact ⟨entries, rfl⟩

theorem Documented.tableAt_cases (h : o.Documented) (hs : setting ∈ ["project", "site", "links"]) :
    o.tableAt setting = [] ∨
      o.Holds setting (o.tableAt setting) ∧ AllStrings (o.tableAt setting) := by
  rw [tableAt]
  cases hlookup : o.entries.lookup setting with
  | none => exact .inl rfl
  | some v =>
    have he := Keyed.mem_of_lookup hlookup
    obtain ⟨entries, rfl, hall⟩ := h.records setting hs v he
    exact .inr ⟨.record hs he, hall⟩

theorem Documented.allStrings_tableAt (h : o.Documented)
    (hs : setting ∈ ["project", "site", "links"]) : AllStrings (o.tableAt setting) := by
  rcases h.tableAt_cases hs with hnil | ⟨-, hall⟩
  · rw [hnil]
    exact List.forall_mem_nil _
  · exact hall

theorem Documented.nodup_tableAt (h : o.Documented) (hs : setting ∈ ["project", "site", "links"]) :
    ((o.tableAt setting).map Prod.fst).Nodup := by
  rcases h.tableAt_cases hs with hnil | ⟨hin, -⟩
  · rw [hnil]
    exact List.nodup_nil
  · exact hin.nodup_keys

/-- A record whose fields all take texts needs known fields only. -/
theorem Documented.record_eq_ok_iff (h : o.Documented) (hs : setting ∈ ["project", "site", "links"])
    {α : Type} {fields : List (Decode.Field α)} {view : (String → Option Value) → α}
    {base : List (String × Value)} (hview : Decode.Describes view fields)
    (hbase : Decode.IsBase fields base)
    (htexts : ∀ f ∈ fields, ∀ v, f.Accepts v ↔ Decode.IsText v) {name : String} {r : α}
    (initial : α) (hinitial : view (fun _ => none) = initial) :
    Decode.record name fields initial (o.valueAt setting (.table (entriesOf base))) = .ok r ↔
      (∀ e ∈ o.tableAt setting, e.1 ∈ fields.map Decode.Field.name) ∧
        r = view fun k => ((o.tableAt setting).lookup k).or (base.lookup k) := by
  rw [h.valueAt_record hs, Decode.record_merged_eq_ok_iff_of_texts hview hbase htexts
    (h.nodup_tableAt hs) initial hinitial]
  refine and_congr_left fun _ => forall₂_congr fun e he => ?_
  exact and_iff_left ((h.allStrings_tableAt hs).isText e he)

theorem Documented.project_eq_ok_iff (h : o.Documented) {p : Project} :
    Decode.project (o.valueAt "project" (.table (entriesOf stockProject))) = .ok p ↔
      (∀ e ∈ o.tableAt "project", e.1 ∈ Decode.projectFields.map Decode.Field.name) ∧
        p = o.config.project := by
  have hs : "project" ∈ ["project", "site", "links"] := by decide
  have hall := h.allStrings_tableAt hs
  rw [Decode.project, h.record_eq_ok_iff hs Decode.describes_project isBase_stockProject
    Decode.accepts_projectFields {} rfl, Decode.projectView, hall.readOr_text rfl,
    hall.readOr_text rfl, hall.readOr_text rfl, hall.readOr_some_text rfl, hall.readOr_text rfl]
  rfl

theorem Documented.site_eq_ok_iff (h : o.Documented) {m : SiteMeta} :
    Decode.site (o.valueAt "site" (.table (entriesOf stockSite))) = .ok m ↔
      (∀ e ∈ o.tableAt "site", e.1 ∈ Decode.siteFields.map Decode.Field.name) ∧
        m = o.config.site := by
  have hs : "site" ∈ ["project", "site", "links"] := by decide
  have hall := h.allStrings_tableAt hs
  rw [Decode.site, h.record_eq_ok_iff hs Decode.describes_site isBase_stockSite
    Decode.accepts_siteFields {} rfl, Decode.siteView, hall.readOr_text rfl, hall.readOr_text rfl,
    hall.readOr_text rfl]
  rfl

theorem lookup_anchorStyles (name : String) :
    Decode.anchorStyles.lookup name = AnchorStyle.ofName? name := by
  rw [AnchorStyle.ofName?.eq_def]
  split
  · rfl
  · rfl
  · rfl
  next hauto hfragment hqualified =>
    simp only [Decode.anchorStyles, Keyed.lookup_cons_eq, List.lookup_nil, if_neg hauto,
      if_neg hfragment, if_neg hqualified]

theorem lookup_unknownSectionChoices (name : String) :
    Decode.unknownSectionChoices.lookup name = UnknownSections.ofName? name := by
  rw [UnknownSections.ofName?.eq_def]
  split
  · rfl
  · rfl
  next herror hwarn =>
    simp only [Decode.unknownSectionChoices, Keyed.lookup_cons_eq, List.lookup_nil, if_neg herror,
      if_neg hwarn]

theorem Documented.links_eq_ok_iff (h : o.Documented) {l : LinkPolicy} :
    Decode.links (o.valueAt "links" (.table (entriesOf stockLinks))) = .ok l ↔
      ((∀ e ∈ o.tableAt "links", e.1 ∈ policyNames.map Prod.fst) ∧
        ∀ key names, (key, names) ∈ policyNames → ∀ name, o.text? "links" key = some name →
          name ∈ names) ∧ l = o.config.links := by
  have hs : "links" ∈ ["project", "site", "links"] := by decide
  have hall := h.allStrings_tableAt hs
  have hnodup := h.nodup_tableAt hs
  rw [h.valueAt_record hs, Decode.links, Decode.record_merged_eq_ok_iff Decode.describes_links
    isBase_stockLinks hnodup {} rfl, hall.taken_links_iff hnodup, Decode.linksView,
    hall.readOr_choice rfl rfl, hall.readOr_choice rfl rfl]
  simp only [lookup_anchorStyles, lookup_unknownSectionChoices]
  rfl

/-- Without sections of its own an overlay has the stock sections. -/
theorem sections_stock : Decode.sections (.array (stockSections.map SectionEntry.toToml)) =
    .ok stockSections := rfl

theorem Documented.sections_eq_ok_iff (h : o.Documented) {l : List SectionEntry} :
    Decode.sections
        (o.valueAt "sections" (.array (stockSections.map SectionEntry.toToml))) = .ok l ↔
      (∀ entries, o.Holds "sections" entries →
        ∀ key, key ∈ entries.map Prod.fst ↔ key ∈ ["id", "page"]) ∧ l = o.config.sections := by
  cases hlookup : o.entries.lookup "sections" with
  | none =>
    have hnone : ∀ entries, ¬ o.Holds "sections" entries := by
      intro entries hin
      obtain ⟨items, he, -⟩ := hin.exists_items
      rw [Keyed.lookup_of_mem o.nodup_keys he] at hlookup
      cases hlookup
    have hconfig : o.config.sections = stockSections := by
      rw [config, hlookup]
      rfl
    rw [valueAt, hlookup]
    simp only [sections_stock, hconfig, Except.ok.injEq, hnone, false_imp_iff, implies_true,
      true_and]
    exact eq_comm
  | some v =>
    have he := Keyed.mem_of_lookup hlookup
    obtain ⟨items, rfl, htables⟩ := h.sections v he
    -- An array is not merged, so the items of the overlay are the sections, each read on its own.
    have hconfig : o.config.sections = items.map sectionOf := by
      rw [config, hlookup]
    have hread : ∀ item ∈ items, ∀ s, Decode.sectionEntry item = .ok s ↔
        (∀ entries, item = .table entries →
          ∀ key, key ∈ entries.map Prod.fst ↔ key ∈ ["id", "page"]) ∧ s = sectionOf item := by
      intro item hitem s
      obtain ⟨entries, rfl, hall⟩ := htables item hitem
      have hin : o.Holds "sections" entries := .item rfl he hitem
      rw [hall.sectionEntry_eq_ok_iff hin.nodup_keys]
      simp only [Value.table.injEq, forall_eq']
    rw [valueAt_array he, Decode.sections_array_eq_ok_iff, Decode.map_eq_map_ok_iff hread, hconfig]
    refine and_congr_left fun _ => ⟨fun hitems entries hin => ?_, fun hsections item hitem => ?_⟩
    · obtain ⟨items', he', hitem⟩ := hin.exists_items
      cases Keyed.value_unique o.nodup_keys he he'
      exact hitems _ hitem entries rfl
    · rintro entries rfl
      exact hsections entries (.item rfl he hitem)

/-- **What a documented overlay is read as.** -/
theorem reads_iff (h : o.Documented) : o.Reads c ↔ o.Known ∧ c = o.config := by
  constructor
  · intro hreads
    obtain ⟨hproject, hp⟩ := h.project_eq_ok_iff.1 hreads.project
    obtain ⟨hsite, hm⟩ := h.site_eq_ok_iff.1 hreads.site
    obtain ⟨⟨hlinks, hpolicies⟩, hl⟩ := h.links_eq_ok_iff.1 hreads.links
    obtain ⟨hsections, hs⟩ := h.sections_eq_ok_iff.1 hreads.sections
    constructor
    · constructor
      case settings => exact fun e he => hreads.keys _ (List.mem_map_of_mem he)
      case fields =>
        intro setting hsetting keys hkeys
        simp only [settingKeys, List.mem_cons, Prod.mk.injEq, List.not_mem_nil, or_false] at hkeys
        rcases hkeys with ⟨rfl, rfl⟩ | ⟨rfl, rfl⟩ | ⟨rfl, rfl⟩ | ⟨rfl, rfl⟩
        · exact hproject
        · exact hsite
        · exact hlinks
        · exact absurd hsetting (by decide)
      case policies => exact hpolicies
      case sections => exact hsections
    · obtain ⟨p, m, l, s⟩ := c
      cases hp
      cases hm
      cases hl
      cases hs
      rfl
  · rintro ⟨hknown, rfl⟩
    constructor
    case keys =>
      intro key hkey
      obtain ⟨e, he, rfl⟩ := List.mem_map.1 hkey
      exact hknown.settings e he
    case project =>
      exact h.project_eq_ok_iff.2 ⟨hknown.fields "project" (by decide) _ (by decide), rfl⟩
    case site => exact h.site_eq_ok_iff.2 ⟨hknown.fields "site" (by decide) _ (by decide), rfl⟩
    case links =>
      exact h.links_eq_ok_iff.2
        ⟨⟨hknown.fields "links" (by decide) _ (by decide), hknown.policies⟩, rfl⟩
    case sections => exact h.sections_eq_ok_iff.2 ⟨hknown.sections, rfl⟩

/-- **A documented overlay changes exactly what it names.** It is read when all it names is known
and the result is valid, and the result is the stock configuration with what it names. Otherwise
what is not known is a decoding error, and what is known but not valid is a fault. -/
theorem resolve_documented (o : Overlay) (h : o.Documented) :
    (∀ c, resolve stockTable (some o.table) = .ok c ↔
        o.Known ∧ o.config.validate = .ok () ∧ c = o.config) ∧
      (¬ o.Known → ∃ e, resolve stockTable (some o.table) = .error (.decode e)) ∧
        (o.Known → ∀ f, o.config.validate = .error f →
          resolve stockTable (some o.table) = .error (.fault f)) := by
  have hdecode : ∀ c, Decode.config (.table o.merged) = .ok c ↔ o.Known ∧ c = o.config :=
    fun c => decode_merged_eq_ok_iff.trans (reads_iff h)
  rw [resolve_eq]
  refine ⟨fun c => ?_, fun hunknown => ?_, fun hknown f hfault => ?_⟩
  · rw [readConfig_eq_ok_iff, hdecode]
    constructor
    · rintro ⟨⟨hknown, rfl⟩, hvalid⟩
      exact ⟨hknown, hvalid, rfl⟩
    · rintro ⟨hknown, hvalid, rfl⟩
      exact ⟨⟨hknown, rfl⟩, hvalid⟩
  · refine readConfig_of_not_decoded fun c hc => ?_
    exact hunknown ((hdecode c).1 hc).1
  · exact readConfig_of_fault ((hdecode o.config).2 ⟨hknown, rfl⟩) hfault

/-- Another name, always qualified anchors, and a section of its own. -/
def renamed : Overlay where
  entries :=
    [
      ("links", .table [("anchor_style", .string "qualified")]),
      ("project", .table [("name", .string "lib")]),
      ("sections", .array [.table [("id", .string "faq"), ("page", .string "help")]])]
  wellFormed := by
    simp only [Value.WellFormed, Value.EntriesWellFormed, Value.AllWellFormed]
    decide

theorem resolve_documented_renamed :
    renamed.Documented ∧ resolve stockTable (some renamed.table) = .ok
      { project := { name := "lib" }
        links := { anchorStyle := .qualified }
        sections := [⟨"faq", "help"⟩] } := by
  have hsections :
      ("sections", .array [.table [("id", .string "faq"), ("page", .string "help")]]) ∈
        renamed.entries := List.mem_cons_of_mem _ (List.mem_cons_of_mem _ List.mem_cons_self)
  have hdocumented : renamed.Documented := by
    constructor
    case records =>
      intro setting hs v he
      simp only [renamed, List.mem_cons, Prod.mk.injEq, List.not_mem_nil, or_false] at he
      rcases he with ⟨rfl, rfl⟩ | ⟨rfl, rfl⟩ | ⟨rfl, rfl⟩
      · exact ⟨_, rfl, by simp [AllStrings]⟩
      · exact ⟨_, rfl, by simp [AllStrings]⟩
      · exact absurd hs (by decide)
    case sections =>
      intro v he
      cases Keyed.value_unique renamed.nodup_keys he hsections
      refine ⟨_, rfl, fun item hitem => ?_⟩
      cases List.mem_singleton.1 hitem
      exact ⟨_, rfl, by simp [AllStrings]⟩
  have hknown : renamed.Known := by
    constructor
    case settings => decide
    case fields =>
      intro setting hs keys hkeys
      simp only [settingKeys, List.mem_cons, Prod.mk.injEq, List.not_mem_nil, or_false] at hkeys
      rcases hkeys with ⟨rfl, rfl⟩ | ⟨rfl, rfl⟩ | ⟨rfl, rfl⟩ | ⟨rfl, rfl⟩ <;> decide
    case policies =>
      intro key names hnames name hname
      simp only [policyNames, List.mem_cons, Prod.mk.injEq, List.not_mem_nil, or_false] at hnames
      rcases hnames with ⟨rfl, rfl⟩ | ⟨rfl, rfl⟩
      · have hstyle : renamed.text? "links" "anchor_style" = some "qualified" := rfl
        rw [hstyle] at hname
        cases hname
        decide
      · cases hname
    case sections =>
      intro entries hin key
      obtain ⟨items, he, hitem⟩ := hin.exists_items
      cases Keyed.value_unique renamed.nodup_keys he hsections
      cases List.mem_singleton.1 hitem
      simp
  exact ⟨hdocumented, ((resolve_documented renamed hdocumented).1 _).2 ⟨hknown, rfl, rfl⟩⟩

end Overlay

end StaticSite
