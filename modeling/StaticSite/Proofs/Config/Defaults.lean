import StaticSite.Proofs.Config.Overlay

/-!
# Two layers of defaults

Every default is there twice: a record that is read starts from its defaults, and the stock settings
that an overlay is laid over name the same values. This module says that one layer is enough for the
records: an overlay is read the same over the stock settings and over nothing.

## The distinction that decides it

The sections are the exception. Their default is the empty list, and the stock settings have three
of them. So the two readings agree exactly where an overlay sets its sections, and otherwise they
differ in the sections alone.

## Errors

What is refused is refused with the same error. Keys are looked at in ascending order, so the error
is the one at the least key that has one (`Decode.setEntries_eq_error_iff`). The stock settings add
keys in between, but what they have is taken, and what the overlay has at a key is refused there
just as it would be without them.

## Main results

* `Decode.setEntries_eq_error_iff` — the error of a table is that of its least refused key
* `Decode.record_laidOver` — a record is read the same with and without its stock settings
* `Overlay.decode_merged` — the whole configuration is, but for sections that are not set
* `Overlay.defaults_agree` — what comes of an overlay over the stock settings and over nothing
-/

namespace StaticSite

open Toml (Value)
open Toml.Value (entriesOf mergeEntries)

namespace Decode

variable {α β : Type} {fields : List (Field α)} {view : (String → Option Value) → α}
  {entries entries' base : List (String × Value)} {r r' : α}

/-! ### Which error a table has -/

/-- Whether the field refuses a value, and with which error, does not depend on the record. -/
def Field.Steady (f : Field α) : Prop :=
  ∀ r r' v e, f.set r v = .error e → f.set r' v = .error e

theorem steady_of_put {name : String} {read : Value → Decoded β} {put : α → β → α} :
    Field.Steady ⟨name, fun r v => (read v).map (put r)⟩ := by
  intro r r' v e h
  cases hv : read v with
  | ok b =>
    simp only [hv] at h
    cases h
  | error e' =>
    simp only [hv] at h
    cases h
    simp only [hv]
    rfl

/-- What an entry is refused with. -/
def refusal? (fields : List (Field α)) (initial : α) (key : String) (v : Value) :
    Option DecodeError :=
  match setEntries fields initial [(key, v)] with
  | .ok _ => none
  | .error e => some e

theorem refusal?_eq_some_iff {initial : α} {key : String} {v : Value} {e : DecodeError} :
    refusal? fields initial key v = some e ↔ setEntries fields initial [(key, v)] = .error e := by
  rw [refusal?]
  cases setEntries fields initial [(key, v)] <;> simp

theorem refusal?_eq_none_iff {initial : α} {key : String} {v : Value} :
    refusal? fields initial key v = none ↔ ∃ r, setEntries fields initial [(key, v)] = .ok r := by
  rw [refusal?]
  cases setEntries fields initial [(key, v)] <;> simp

theorem setEntries_cons (fields : List (Field α)) (r : α) (entry : String × Value)
    (rest : List (String × Value)) :
    setEntries fields r (entry :: rest) =
      match setEntries fields r [entry] with
      | .ok r' => setEntries fields r' rest
      | .error e => .error e := by
  obtain ⟨key, v⟩ := entry
  rw [setEntries, setEntries]
  cases fields.find? fun f => f.name == key with
  | none => rfl
  | some f =>
    simp only
    cases under key (f.set r v) with
    | ok r' => rfl
    | error e => rfl

/-- An entry is refused in the same way whatever the record is. -/
theorem setEntries_singleton_of_steady (hsteady : ∀ f ∈ fields, f.Steady) {key : String} {v : Value}
    {e : DecodeError} (r' : α) (h : setEntries fields r [(key, v)] = .error e) :
    setEntries fields r' [(key, v)] = .error e := by
  cases hfind : fields.find? fun f => f.name == key with
  | none =>
    rw [setEntries, hfind] at h ⊢
    exact h
  | some f =>
    have hf := hsteady f (List.mem_of_find?_eq_some hfind)
    rw [setEntries, hfind] at h ⊢
    cases hset : f.set r v with
    | ok r₁ =>
      simp only [hset] at h
      cases h
    | error e₀ =>
      simp only [hset] at h
      simp only [hf r r' v e₀ hset]
      exact h

/-- What an entry is refused with is up to the field of its key. -/
theorem refusal?_congr {initial : α} {key : String} {v v' : Value}
    (h : ∀ f ∈ fields, f.name = key → ∀ r, f.set r v = f.set r v') :
    refusal? fields initial key v = refusal? fields initial key v' := by
  rw [refusal?, refusal?, setEntries, setEntries]
  cases hfind : fields.find? fun f => f.name == key with
  | none => rfl
  | some f =>
    have hname : f.name = key := by simpa using List.find?_some hfind
    simp only [h f (List.mem_of_find?_eq_some hfind) hname]

/-- **The error of a table** is that of its least refused key. -/
theorem setEntries_eq_error_iff (hsteady : ∀ f ∈ fields, f.Steady) (hsorted : Keyed.Sorted entries)
    (initial : α) {e : DecodeError} :
    setEntries fields r entries = .error e ↔
      ∃ key, (entries.lookup key).bind (refusal? fields initial key) = some e ∧
        ∀ key' < key, (entries.lookup key').bind (refusal? fields initial key') = none := by
  induction entries generalizing r with
  | nil =>
    rw [setEntries]
    simp
  | cons entry rest ih =>
    obtain ⟨k, v⟩ := entry
    obtain ⟨hhead, hrest⟩ := List.pairwise_cons.1 hsorted
    -- Keys up to the first one are not among the others.
    have hbelow : ∀ key, ¬ k < key → rest.lookup key = none := by
      intro key hkey
      refine Keyed.lookup_eq_none_of_not_mem fun hmem => ?_
      obtain ⟨e', he', rfl⟩ := List.mem_map.1 hmem
      exact hkey (hhead e' he')
    rw [setEntries_cons]
    cases hfirst : setEntries fields r [(k, v)] with
    | error e₀ =>
      have hrefused : refusal? fields initial k v = some e₀ :=
        refusal?_eq_some_iff.2 (setEntries_singleton_of_steady hsteady initial hfirst)
      constructor
      · rintro ⟨⟩
        refine ⟨k, ?_, fun key' hkey' => ?_⟩
        · rw [Keyed.lookup_cons_eq, if_pos rfl]
          exact hrefused
        · have hne : key' ≠ k := fun heq => String.lt_irrefl k (heq ▸ hkey')
          rw [Keyed.lookup_cons_eq, if_neg hne, hbelow key' (String.lt_asymm hkey')]
          rfl
      · rintro ⟨key, hkey, hleast⟩
        have hnot : ¬ k < key := by
          intro hlt
          have hnone := hleast k hlt
          rw [Keyed.lookup_cons_eq, if_pos rfl, Option.bind_some, hrefused] at hnone
          cases hnone
        rw [Keyed.lookup_cons_eq, hbelow key hnot] at hkey
        by_cases heq : key = k
        · subst heq
          rw [if_pos rfl, Option.bind_some, hrefused] at hkey
          exact congrArg Except.error (Option.some.inj hkey)
        · rw [if_neg heq] at hkey
          cases hkey
    | ok r₁ =>
      have htaken : refusal? fields initial k v = none := by
        cases hrefusal : refusal? fields initial k v with
        | none => rfl
        | some e₀ =>
          have herror := setEntries_singleton_of_steady hsteady r (refusal?_eq_some_iff.1 hrefusal)
          rw [herror] at hfirst
          cases hfirst
      have hsame : ∀ key, (((k, v) :: rest).lookup key).bind (refusal? fields initial key) =
          (rest.lookup key).bind (refusal? fields initial key) := by
        intro key
        rw [Keyed.lookup_cons_eq]
        by_cases heq : key = k
        · subst heq
          rw [if_pos rfl, Option.bind_some, htaken, hbelow key (String.lt_irrefl key)]
          rfl
        · rw [if_neg heq]
      simp only [hsame]
      exact ih hrest

/-- Two tables with the same refusals have the same errors. -/
theorem setEntries_error_congr (hsteady : ∀ f ∈ fields, f.Steady) (hsorted : Keyed.Sorted entries)
    (hsorted' : Keyed.Sorted entries') (initial : α)
    (hsame : ∀ key, (entries.lookup key).bind (refusal? fields initial key) =
      (entries'.lookup key).bind (refusal? fields initial key)) {e : DecodeError} :
    setEntries fields r entries = .error e ↔ setEntries fields r entries' = .error e := by
  rw [setEntries_eq_error_iff hsteady hsorted initial,
    setEntries_eq_error_iff hsteady hsorted' initial]
  simp only [hsame]

/-! ### Records over their own defaults -/

/-- An entry that its field takes is not refused. -/
theorem refusal?_of_accepts (h : Describes view fields) {initial : α}
    (hinitial : view (fun _ => none) = initial) {key : String} {v : Value}
    (htaken : ∃ f ∈ fields, f.name = key ∧ f.Accepts v) : refusal? fields initial key v = none := by
  have hall : ∀ e ∈ [(key, v)], ∃ f ∈ fields, f.name = e.1 ∧ f.Accepts e.2 :=
    List.forall_mem_singleton.2 htaken
  have hnodup : ([(key, v)].map Prod.fst).Nodup := by simp
  rw [refusal?_eq_none_iff, ← hinitial]
  exact ⟨_, setEntries_of_accepts h hnodup _ hall⟩

/-- The base has the defaults of the record: where it fills in, the record is the same. -/
def Restates (view : (String → Option Value) → α) (base : List (String × Value)) : Prop :=
  ∀ l, view (fun k => (l k).or (base.lookup k)) = view l

/-- **A table is read the same over the defaults of the record**, and refused the same. -/
theorem record_merged (h : Describes view fields) (hsteady : ∀ f ∈ fields, f.Steady)
    (hbase : IsBase fields base) (hrestates : Restates view base) (hsorted : Keyed.Sorted entries)
    {name : String} (initial : α) (hinitial : view (fun _ => none) = initial) :
    record name fields initial (.table (mergeEntries (entriesOf base) entries)) =
      record name fields initial (.table entries) := by
  have hnodup := hsorted.nodup_keys
  cases hplain : record name fields initial (.table entries) with
  | ok r =>
    obtain ⟨htaken, hr⟩ := (record_table_eq_ok_iff h hnodup initial hinitial).1 hplain
    refine (record_merged_eq_ok_iff h hbase hnodup initial hinitial).2 ⟨htaken, ?_⟩
    exact hr.trans (hrestates _).symm
  | error e =>
    have hmerged : Keyed.Sorted (mergeEntries (entriesOf base) entries) :=
      Value.sorted_mergeEntries (Value.sorted_entriesOf base)
    refine (setEntries_error_congr hsteady hmerged hsorted initial fun key => ?_).2 hplain
    rw [hbase.lookup_merged hnodup]
    cases entries.lookup key with
    | some v => rfl
    | none =>
      rw [Option.none_or, Option.bind_none]
      cases hkey : base.lookup key with
      | none => rfl
      | some w =>
        exact refusal?_of_accepts h hinitial (hbase.accepted _ (Keyed.mem_of_lookup hkey))

/-- **A record is read the same with and without its stock settings below it**, whatever kind of
value it is. -/
theorem record_laidOver (h : Describes view fields) (hsteady : ∀ f ∈ fields, f.Steady)
    (hbase : IsBase fields base) (hrestates : Restates view base) {v : Value} (hv : v.WellFormed)
    {name : String} (initial : α) (hinitial : view (fun _ => none) = initial) :
    record name fields initial (v.laidOver (some (.table (entriesOf base)))) =
      record name fields initial v := by
  cases v with
  | table entries =>
    rw [Value.laidOver_table]
    exact record_merged h hsteady hbase hrestates (Value.wellFormed_table_iff.1 hv).1 initial
      hinitial
  | _ => rw [Value.laidOver_of_ne_table (by simp)]

/-! ### The records there are -/

/-- What a key is read as over a base that has the default there. -/
theorem readOr_or {read : Value → Decoded β} {default : β} {v? : Option Value} {key : String}
    {w : Value} (hbase : base.lookup key = some w) (hdefault : read w = .ok default) :
    readOr read default (v?.or (base.lookup key)) = readOr read default v? := by
  rw [hbase]
  cases v? with
  | none => exact readOr_of_ok hdefault
  | some v => rfl

theorem restates_project : Restates projectView stockProject := by
  intro l
  have hunset : stockProject.lookup "archive_base_url" = none := rfl
  simp only [projectView, Project.mk.injEq, hunset, Option.or_none, true_and]
  exact ⟨readOr_or rfl rfl, readOr_or rfl rfl, readOr_or rfl rfl, readOr_or rfl rfl⟩

theorem restates_site : Restates siteView stockSite := by
  intro l
  simp only [siteView, SiteMeta.mk.injEq]
  exact ⟨readOr_or rfl rfl, readOr_or rfl rfl, readOr_or rfl rfl⟩

theorem restates_links : Restates linksView stockLinks := by
  intro l
  simp only [linksView, LinkPolicy.mk.injEq]
  exact ⟨readOr_or rfl rfl, readOr_or rfl rfl⟩

theorem steady_projectFields : ∀ f ∈ projectFields, f.Steady := by
  intro f hf
  simp only [projectFields, List.mem_cons, List.not_mem_nil, or_false] at hf
  rcases hf with rfl | rfl | rfl | rfl | rfl <;> exact steady_of_put

theorem steady_siteFields : ∀ f ∈ siteFields, f.Steady := by
  intro f hf
  simp only [siteFields, List.mem_cons, List.not_mem_nil, or_false] at hf
  rcases hf with rfl | rfl | rfl <;> exact steady_of_put

theorem steady_linkFields : ∀ f ∈ linkFields, f.Steady := by
  intro f hf
  simp only [linkFields, List.mem_cons, List.not_mem_nil, or_false] at hf
  rcases hf with rfl | rfl <;> exact steady_of_put

theorem steady_configFields : ∀ f ∈ configFields, f.Steady := by
  intro f hf
  simp only [configFields, List.mem_cons, List.not_mem_nil, or_false] at hf
  rcases hf with rfl | rfl | rfl | rfl <;> exact steady_of_put

variable {v : Value} {settings : List (String × Value)}

theorem project_laidOver (hv : v.WellFormed) :
    project (v.laidOver (some (.table (entriesOf stockProject)))) = project v :=
  record_laidOver describes_project steady_projectFields isBase_stockProject restates_project hv {}
    rfl

theorem site_laidOver (hv : v.WellFormed) :
    site (v.laidOver (some (.table (entriesOf stockSite)))) = site v :=
  record_laidOver describes_site steady_siteFields isBase_stockSite restates_site hv {} rfl

theorem links_laidOver (hv : v.WellFormed) :
    links (v.laidOver (some (.table (entriesOf stockLinks)))) = links v :=
  record_laidOver describes_links steady_linkFields isBase_stockLinks restates_links hv {} rfl

/-- A field reads a value at its key the same with and without the stock settings below it. -/
theorem set_laidOver_stockRoot (hv : v.WellFormed) {key : String} :
    ∀ f ∈ configFields, f.name = key →
      ∀ c, f.set c (v.laidOver (stockRoot.lookup key)) = f.set c v := by
  intro f hf hname c
  simp only [configFields, List.mem_cons, List.not_mem_nil, or_false] at hf
  rcases hf with rfl | rfl | rfl | rfl
  case inl =>
    subst hname
    exact congrArg (Except.map _) (project_laidOver hv)
  case inr.inl =>
    subst hname
    exact congrArg (Except.map _) (site_laidOver hv)
  case inr.inr.inl =>
    subst hname
    exact congrArg (Except.map _) (links_laidOver hv)
  case inr.inr.inr =>
    -- The stock sections are an array, so whatever there is takes their place.
    subst hname
    rw [Value.laidOver_of_not_table (by rintro entries ⟨⟩)]

/-- A configuration that is read is what there is at each key. -/
theorem eq_configView_of_ok {c : SiteConfig} (hnodup : (settings.map Prod.fst).Nodup)
    (h : config (.table settings) = .ok c) : c = configView fun k => settings.lookup k :=
  ((record_table_eq_ok_iff describes_config hnodup {} rfl).1 h).2

end Decode

/-! ### Overlays -/

namespace Overlay

variable {o : Overlay}

/-- What is read at a key where the base has the default. -/
theorem readOr_merged {α : Type} {read : Value → Decoded α} {default : α} {key : String} {w : Value}
    (hstock : stockRoot.lookup key = some w) (hdefault : read w = .ok default)
    (hsame : ∀ v, v.WellFormed → read (v.laidOver (some w)) = read v) :
    Decode.readOr read default (o.merged.lookup key) =
      Decode.readOr read default (o.entries.lookup key) := by
  rw [lookup_merged_of_stock o hstock, valueAt]
  cases hkey : o.entries.lookup key with
  | none => exact Decode.readOr_of_ok hdefault
  | some v =>
    have hv : v.WellFormed := o.wellFormed_of_mem (Keyed.mem_of_lookup hkey)
    simp only [Decode.readOr, hsame v hv]

/-- What the stock settings have is taken. -/
theorem taken_stockRoot :
    ∀ e ∈ stockRoot, ∃ f ∈ Decode.configFields, f.name = e.1 ∧ f.Accepts e.2 := by
  intro e he
  rw [Decode.taken_config_iff]
  simp only [stockRoot, List.mem_cons, List.not_mem_nil, or_false] at he
  rcases he with rfl | rfl | rfl | rfl
  · exact .inl ⟨rfl, {}, rfl⟩
  · exact .inr (.inl ⟨rfl, {}, rfl⟩)
  · exact .inr (.inr (.inl ⟨rfl, {}, rfl⟩))
  · exact .inr (.inr (.inr ⟨rfl, stockSections, rfl⟩))

/-- The stock settings add no refusal and take none away. -/
theorem refusal?_merged (key : String) :
    (o.merged.lookup key).bind (Decode.refusal? Decode.configFields {} key) =
      (o.entries.lookup key).bind (Decode.refusal? Decode.configFields {} key) := by
  rw [lookup_merged]
  cases hkey : o.entries.lookup key with
  | some v =>
    have hv : v.WellFormed := o.wellFormed_of_mem (Keyed.mem_of_lookup hkey)
    exact Decode.refusal?_congr (Decode.set_laidOver_stockRoot hv)
  | none =>
    rw [Option.map_none, Option.none_or, Option.bind_none]
    cases hstock : stockRoot.lookup key with
    | none => rfl
    | some w =>
      exact Decode.refusal?_of_accepts Decode.describes_config rfl
        (taken_stockRoot _ (Keyed.mem_of_lookup hstock))

theorem decode_merged_eq_error_iff {e : DecodeError} :
    Decode.config (.table o.merged) = .error e ↔ Decode.config (.table o.entries) = .error e :=
  Decode.setEntries_error_congr Decode.steady_configFields
    (Value.sorted_mergeEntries (Value.sorted_entriesOf stockRoot)) o.sorted_entries {}
    refusal?_merged

variable (o) in
/-- The configuration with the stock sections, unless the overlay sets the sections. -/
def withSections (c : SiteConfig) : SiteConfig :=
  if "sections" ∈ o.entries.map Prod.fst then c else { c with sections := stockSections }

variable {c : SiteConfig}

/-- What the entries are read as, over the stock settings and over nothing. -/
theorem configView_merged :
    Decode.configView (fun k => o.merged.lookup k) =
      o.withSections (Decode.configView fun k => o.entries.lookup k) := by
  have hproject : Decode.readOr Decode.project {} (o.merged.lookup "project") =
      Decode.readOr Decode.project {} (o.entries.lookup "project") :=
    readOr_merged rfl rfl fun v hv => Decode.project_laidOver hv
  have hsite : Decode.readOr Decode.site {} (o.merged.lookup "site") =
      Decode.readOr Decode.site {} (o.entries.lookup "site") :=
    readOr_merged rfl rfl fun v hv => Decode.site_laidOver hv
  have hlinks : Decode.readOr Decode.links {} (o.merged.lookup "links") =
      Decode.readOr Decode.links {} (o.entries.lookup "links") :=
    readOr_merged rfl rfl fun v hv => Decode.links_laidOver hv
  rw [withSections]
  simp only [Decode.configView, hproject, hsite, hlinks, lookup_merged_sections]
  split
  next hset =>
    obtain ⟨v, hv⟩ := Option.isSome_iff_exists.1 (Keyed.isSome_lookup_iff.2 hset)
    have hlaid : v.laidOver (some (.array (stockSections.map SectionEntry.toToml))) = v :=
      Value.laidOver_of_not_table (by simp)
    rw [valueAt, hv]
    simp only [hlaid]
  next hunset =>
    rw [valueAt, Keyed.lookup_eq_none_of_not_mem hunset]
    rfl

/-- **What an overlay is read as**, over the stock settings and over nothing. -/
theorem decode_merged : Decode.config (.table o.merged) =
    (Decode.config (.table o.entries)).map o.withSections := by
  cases hplain : Decode.config (.table o.entries) with
  | error e => exact decode_merged_eq_error_iff.2 hplain
  | ok c =>
    cases hmerged : Decode.config (.table o.merged) with
    | error e =>
      rw [decode_merged_eq_error_iff.1 hmerged] at hplain
      cases hplain
    | ok c' =>
      have hc : c = Decode.configView fun k => o.entries.lookup k :=
        Decode.eq_configView_of_ok o.nodup_keys hplain
      have hc' : c' = Decode.configView fun k => o.merged.lookup k :=
        Decode.eq_configView_of_ok o.nodup_merged hmerged
      rw [hc', hc, configView_merged]
      rfl

/-- Sections that are not set are read as none. -/
theorem sections_of_unset (hunset : "sections" ∉ o.entries.map Prod.fst)
    (h : Decode.config (.table o.entries) = .ok c) : c.sections = [] := by
  rw [Decode.eq_configView_of_ok o.nodup_keys h, Decode.configView,
    Keyed.lookup_eq_none_of_not_mem hunset]
  rfl

/-- The stock sections have no fault of their own. -/
theorem validate_withSections (h : Decode.config (.table o.entries) = .ok c) :
    (o.withSections c).validate = c.validate := by
  rw [withSections]
  split
  next => rfl
  next hunset =>
    have hstock : stockSections.findSome? SectionEntry.fault? = none := by decide
    rw [SiteConfig.validate, SiteConfig.validate, SiteConfig.fault?, SiteConfig.fault?,
      sections_of_unset hunset h, hstock, List.findSome?_nil]

/-- **What comes of an overlay**, over the stock settings and over nothing. -/
theorem readConfig_merged : readConfig (.table o.merged) =
    (readConfig (.table o.entries)).map o.withSections := by
  rw [readConfig, readConfig, decode_merged]
  cases hplain : Decode.config (.table o.entries) with
  | error e => rfl
  | ok c =>
    simp only [Except.map, validate_withSections hplain]
    cases c.validate with
    | error f => rfl
    | ok _ => rfl

/-- Over nothing an overlay is read as it is. -/
theorem resolve_nothing : resolve (.table []) (some o.table) = readConfig (.table o.entries) := by
  have hsorted : Keyed.Sorted ([] ++ o.entries) := o.sorted_entries
  rw [resolve, table, Value.merge, Value.mergeEntries_of_sorted_append hsorted, List.nil_append]

/-- **The two layers of defaults agree.** An overlay that sets its sections comes to the same over
the stock settings as over nothing, error or configuration. One that does not is refused by both
with the same error or by neither, and then it has no sections over nothing, the stock sections over
the stock settings, and everything else alike. -/
theorem defaults_agree (o : Overlay) :
    ("sections" ∈ o.entries.map Prod.fst →
        resolve stockTable (some o.table) = resolve (.table []) (some o.table)) ∧
      ("sections" ∉ o.entries.map Prod.fst →
        (∀ e, resolve stockTable (some o.table) = .error e ↔
            resolve (.table []) (some o.table) = .error e) ∧
          ∀ c, resolve (.table []) (some o.table) = .ok c →
            c.sections = [] ∧
              resolve stockTable (some o.table) = .ok { c with sections := stockSections }) := by
  rw [resolve_eq, resolve_nothing, readConfig_merged]
  constructor
  case left =>
    intro hset
    have hid : o.withSections = id := funext fun c => if_pos hset
    rw [hid, Except.map_id]
    rfl
  case right =>
    intro hunset
    constructor
    case left =>
      intro e
      cases readConfig (.table o.entries) with
      | error e' => rfl
      | ok c => simp [Except.map]
    case right =>
      intro c hc
      refine ⟨sections_of_unset hunset (readConfig_eq_ok_iff.1 hc).1, ?_⟩
      rw [hc, Except.map, withSections, if_neg hunset]

/-- The project as an array, with its name only, and no sections. -/
def positional : Overlay where
  entries := [("project", .array [.string "lib"])]
  wellFormed := by
    simp only [Value.WellFormed, Value.EntriesWellFormed, Value.AllWellFormed]
    decide

/-- A choice that there is none of, a number for a name, and sections. -/
def misfits : Overlay where
  entries :=
    [
      ("links", .table [("anchor_style", .string "bold")]),
      ("project", .table [("name", .integer 7)]),
      ("sections", .array [])]
  wellFormed := by
    simp only [Value.WellFormed, Value.EntriesWellFormed, Value.AllWellFormed]
    decide

theorem defaults_agree_positional_misfits :
    resolve stockTable (some positional.table) =
        .ok { project := { name := "lib" }, sections := stockSections } ∧
      resolve stockTable (some misfits.table) =
        .error (.decode
          { path := ["links", "anchor_style"]
            misfit := .unknownChoice "bold" ["auto", "fragment", "qualified"] }) := by
  have hunset : "sections" ∉ positional.entries.map Prod.fst := by decide
  have hset : "sections" ∈ misfits.entries.map Prod.fst := by decide
  have hplain : resolve (.table []) (some positional.table) =
      .ok { project := { name := "lib" } } := rfl
  refine ⟨(((defaults_agree positional).2 hunset).2 _ hplain).2, ?_⟩
  rw [(defaults_agree misfits).1 hset]
  rfl

end Overlay

end StaticSite
