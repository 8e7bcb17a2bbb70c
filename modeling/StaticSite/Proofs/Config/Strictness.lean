import StaticSite.Proofs.Config.Overlay

/-!
# No setting is ignored

An overlay can be wrong in many ways at once, and a wrong value may lie over a stock table, take the
place of one, or be merged into one. None of this matters: what is read has a place for everything
that the overlay holds (`Reads.texts`, `Reads.choices`), so an overlay with something that has no
place is not read at all, and it is refused before anything is validated.

## Main results

* `Overlay.refused_of_fault` — an overlay with a fault is a decoding error, whatever else it holds,
  and what is not refused is valid
-/

namespace StaticSite

open Toml (Value)

namespace Overlay

/-- Something in an overlay that no configuration has a place for. -/
inductive Fault (o : Overlay) : Prop
  /-- A key at the root that is no setting. -/
  | unknownSetting {key : String} {v : Value} : (key, v) ∈ o.entries →
    key ∉ settingKeys.map Prod.fst → Fault o
  /-- A key in the table of a setting that is none of its fields. -/
  | unknownKey {setting : String} {keys : List String} {inner : List (String × Value)}
    {key : String} {v : Value} : (setting, keys) ∈ settingKeys → o.Holds setting inner →
    (key, v) ∈ inner → key ∉ keys → Fault o
  /-- A field that holds a text, with another kind of value. -/
  | notText {setting : String} {keys : List String} {inner : List (String × Value)}
    {key : String} {v : Value} : (setting, keys) ∈ settingKeys → setting ≠ "links" →
    o.Holds setting inner → (key, v) ∈ inner → key ∈ keys → ¬ Decode.IsText v → Fault o
  /-- A policy whose value is none of its choices. -/
  | notChoice {key : String} {names : List String} {inner : List (String × Value)} {v : Value} :
    (key, names) ∈ policyNames → o.Holds "links" inner → (key, v) ∈ inner →
    ¬ Decode.NamesChoice names v → Fault o

variable {o : Overlay} {c : SiteConfig} {setting : String} {inner : List (String × Value)}

/-- A configuration that is read has texts wherever the overlay names a field that holds one. -/
theorem Reads.texts (h : o.Reads c) {keys : List String} (hkeys : (setting, keys) ∈ settingKeys)
    (hne : setting ≠ "links") (hin : o.Holds setting inner) :
    ∀ e ∈ inner, e.1 ∈ keys ∧ Decode.IsText e.2 := by
  have hnodup := hin.nodup_keys
  simp only [settingKeys, List.mem_cons, Prod.mk.injEq, List.not_mem_nil, or_false] at hkeys
  rcases hkeys with ⟨rfl, rfl⟩ | ⟨rfl, rfl⟩ | ⟨rfl, -⟩ | ⟨rfl, rfl⟩
  · have hread := h.project
    rw [valueAt_table (hin.mem_entries (by decide)), Decode.project,
      Decode.record_merged_eq_ok_iff_of_texts Decode.describes_project isBase_stockProject
        Decode.accepts_projectFields hnodup {} rfl] at hread
    exact hread.1
  · have hread := h.site
    rw [valueAt_table (hin.mem_entries (by decide)), Decode.site,
      Decode.record_merged_eq_ok_iff_of_texts Decode.describes_site isBase_stockSite
        Decode.accepts_siteFields hnodup {} rfl] at hread
    exact hread.1
  · exact absurd rfl hne
  · obtain ⟨items, he, hitem⟩ := hin.exists_items
    have hread := h.sections
    rw [valueAt_array he, Decode.sections_array_eq_ok_iff] at hread
    have hmem : Decode.sectionEntry (.table inner) ∈ c.sections.map .ok :=
      hread ▸ List.mem_map_of_mem hitem
    obtain ⟨s, -, hs⟩ := List.mem_map.1 hmem
    exact ((Decode.sectionEntry_table_eq_ok_iff hnodup).1 hs.symm).1

/-- A configuration that is read has a known choice wherever the overlay names a policy. -/
theorem Reads.choices (h : o.Reads c) (hin : o.Holds "links" inner) :
    ∀ e ∈ inner, ∃ names, (e.1, names) ∈ policyNames ∧ Decode.NamesChoice names e.2 := by
  have hread := h.links
  rw [valueAt_table (hin.mem_entries (by decide)), Decode.links,
    Decode.record_merged_eq_ok_iff Decode.describes_links isBase_stockLinks hin.nodup_keys {} rfl]
    at hread
  rintro ⟨key, v⟩ he
  rcases Decode.taken_links_iff.1 (hread.1 (key, v) he) with ⟨rfl, style, hv⟩ | ⟨rfl, what, hv⟩
  · exact ⟨_, List.mem_cons_self, Decode.namesChoice_of_choice hv⟩
  · exact ⟨_, List.mem_cons_of_mem _ List.mem_cons_self, Decode.namesChoice_of_choice hv⟩

/-- A configuration that is read knows every key in the table of a setting. -/
theorem Reads.known_keys (h : o.Reads c) {keys : List String}
    (hkeys : (setting, keys) ∈ settingKeys) (hin : o.Holds setting inner) :
    ∀ e ∈ inner, e.1 ∈ keys := by
  intro e he
  by_cases hlinks : setting = "links"
  · subst hlinks
    have hpolicies : keys = policyNames.map Prod.fst :=
      Keyed.value_unique nodup_settingKeys hkeys (by decide)
    obtain ⟨names, hnames, -⟩ := h.choices hin e he
    rw [hpolicies]
    exact List.mem_map_of_mem (f := Prod.fst) hnames
  · exact (h.texts hkeys hlinks hin e he).1

/-- An overlay that is read has no fault. -/
theorem Reads.not_fault (h : o.Reads c) : ¬ o.Fault := by
  intro hfault
  cases hfault with
  | unknownSetting he hkey => exact hkey (h.keys _ (List.mem_map_of_mem he))
  | unknownKey hkeys hin he hkey => exact hkey (h.known_keys hkeys hin _ he)
  | notText hkeys hne hin he _ htext => exact htext (h.texts hkeys hne hin _ he).2
  | notChoice hnames hin he hchoice =>
    obtain ⟨names', hnames', hchoice'⟩ := h.choices hin _ he
    cases Keyed.value_unique nodup_policyNames hnames hnames'
    exact hchoice hchoice'

/-- **No setting is ignored**: an overlay with a fault is a decoding error, whatever else it holds.
And whatever is not refused is valid. -/
theorem refused_of_fault (o : Overlay) :
    (o.Fault → ∃ e, resolve stockTable (some o.table) = .error (.decode e)) ∧
      ∀ c, resolve stockTable (some o.table) = .ok c → c.validate = .ok () := by
  constructor
  · intro hfault
    rw [resolve_eq]
    refine readConfig_of_not_decoded fun c hdecode => ?_
    exact (decode_merged_eq_ok_iff.1 hdecode).not_fault hfault
  · intro c hc
    exact validate_of_resolve hc

/-- A choice that there is not, a number for a name, and a key that is no field. -/
def faulty : Overlay where
  entries :=
    [
      ("links", .table [("anchor_style", .string "absolute")]),
      ("project", .table [("name", .integer 7), ("verison", .string "1.2")])]
  wellFormed := by
    simp only [Value.WellFormed, Value.EntriesWellFormed]
    decide

theorem refused_of_fault_faulty :
    faulty.Fault ∧ ∃ e, resolve stockTable (some faulty.table) = .error (.decode e) := by
  have hlinks : faulty.Holds "links" [("anchor_style", .string "absolute")] :=
    .record (by decide) List.mem_cons_self
  have hfault : faulty.Fault := by
    refine .notChoice List.mem_cons_self hlinks List.mem_cons_self ?_
    simp [Decode.NamesChoice]
  exact ⟨hfault, (refused_of_fault faulty).1 hfault⟩

end Overlay

end StaticSite
