import StaticSite.Config.Decode
import StaticSite.Proofs.SortedMap

/-!
# Reading records from tables

A record is read entry by entry, and every entry changes one field. The keys of a table are
distinct, so the order makes no difference to what is read: a field has what there is at its name,
or its default. Only the error depends on the order, and which error it is does not matter here.

## Views

A `view` makes a record out of what there is at each key. It `Describes` the fields of the record
when putting a value into a field of a view gives the view with that value at the field's name. This
is the only place where fields are looked at one by one; every statement about a whole table follows
from it by induction on the entries.

## Main results

* `Decode.accepts_of_setEntries` — no entry is passed over
* `Decode.setEntries_eq_ok_iff`, `Decode.record_table_eq_ok_iff` — what a table is read as, exactly
* `Decode.sectionEntry_table_eq_ok_iff` — what a section entry has to have
* `Decode.describes_project`, `Decode.describes_site`, `Decode.describes_links`,
  `Decode.describes_section`, `Decode.describes_config` — the views of the records there are
-/

namespace StaticSite

namespace Decode

open Toml (Value)

variable {α β : Type}

/-! ### Entries and fields -/

/-- The field takes the value, at least in some record. -/
def Field.Accepts (f : Field α) (v : Value) : Prop := ∃ r r', f.set r v = .ok r'

theorem under_eq_ok_iff {key : String} {x : Decoded α} {a : α} :
    under key x = .ok a ↔ x = .ok a := by
  cases x with
  | ok b => rfl
  | error e =>
    constructor
    · rintro ⟨⟩
    · rintro ⟨⟩

theorem bind_eq_ok_iff {x : Decoded α} {f : α → Decoded β} {b : β} :
    x >>= f = .ok b ↔ ∃ a, x = .ok a ∧ f a = .ok b := by
  cases x with
  | ok a => simp [bind, Except.bind]
  | error e => simp [bind, Except.bind]

/-- A list is read when each of its items is. -/
theorem mapM_eq_ok_iff {f : α → Decoded β} {l : List α} {bs : List β} :
    l.mapM f = .ok bs ↔ l.map f = bs.map .ok := by
  induction l generalizing bs with
  | nil => cases bs <;> simp [pure, Except.pure]
  | cons a rest ih =>
    simp only [List.mapM_cons, bind_eq_ok_iff, ih]
    cases bs with
    | nil => simp [pure, Except.pure]
    | cons b bs => simp [pure, Except.pure]

/-- Items that are each read under a condition of their own: the list is read when all hold. -/
theorem map_eq_map_ok_iff {f : α → Decoded β} {g : α → β} {P : α → Prop} {l : List α}
    {bs : List β} (h : ∀ a ∈ l, ∀ b, f a = .ok b ↔ P a ∧ b = g a) :
    l.map f = bs.map .ok ↔ (∀ a ∈ l, P a) ∧ bs = l.map g := by
  induction l generalizing bs with
  | nil => cases bs <;> simp
  | cons a rest ih =>
    have hrest := fun bs => @ih bs fun a' ha' => h a' (List.mem_cons_of_mem _ ha')
    cases bs with
    | nil => simp
    | cons b bs =>
      simp only [List.map_cons, List.cons.injEq, List.forall_mem_cons, hrest,
        h a List.mem_cons_self]
      exact and_and_and_comm

variable {fields : List (Field α)} {entries : List (String × Value)} {r r' : α}

/-- **No entry is passed over**: each one has a field, and the field takes the value. -/
theorem accepts_of_setEntries (h : setEntries fields r entries = .ok r') :
    ∀ e ∈ entries, ∃ f ∈ fields, f.name = e.1 ∧ f.Accepts e.2 := by
  induction entries generalizing r with
  | nil => exact List.forall_mem_nil _
  | cons e rest ih =>
    obtain ⟨key, v⟩ := e
    rw [setEntries] at h
    split at h
    · cases h
    next f hfind =>
      split at h
      · cases h
      next r₁ hset =>
        have hname : f.name = key := by simpa using List.find?_some hfind
        intro e he
        rcases List.mem_cons.1 he with rfl | he
        · exact ⟨f, List.mem_of_find?_eq_some hfind, hname, r, r₁, under_eq_ok_iff.1 hset⟩
        · exact ih h e he

/-- The view makes a record out of what there is at each key, field by field. -/
structure Describes (view : (String → Option Value) → α) (fields : List (Field α)) : Prop where
  /-- No two fields share a name. -/
  names : (fields.map Field.name).Nodup
  /-- A value that is taken is what there is at the name of the field. -/
  set_eq : ∀ f ∈ fields, ∀ l v, f.Accepts v →
    f.set (view l) v = .ok (view fun k => if k = f.name then some v else l k)

variable {view : (String → Option Value) → α}

theorem Describes.find?_eq (h : Describes view fields) {f : Field α} (hf : f ∈ fields) :
    fields.find? (fun g => g.name == f.name) = some f := by
  have hnodup := h.names
  clear h
  induction fields with
  | nil => cases hf
  | cons g rest ih =>
    rw [List.map_cons, List.nodup_cons] at hnodup
    rw [List.find?_cons]
    rcases List.mem_cons.1 hf with rfl | hf
    · rw [beq_self_eq_true]
    · have hne : g.name ≠ f.name := fun he => hnodup.1 (he ▸ List.mem_map_of_mem hf)
      rw [beq_false_of_ne hne]
      exact ih hf hnodup.2

/-- **One entry** that is taken: the rest is read over the view that has it. -/
theorem setEntries_cons_of_accepts (h : Describes view fields) {f : Field α} (hf : f ∈ fields)
    {v : Value} (haccepts : f.Accepts v) (l : String → Option Value)
    (rest : List (String × Value)) :
    setEntries fields (view l) ((f.name, v) :: rest) =
      setEntries fields (view fun k => if k = f.name then some v else l k) rest := by
  rw [setEntries, h.find?_eq hf]
  simp only [h.set_eq f hf l v haccepts]
  rfl

/-- An entry whose key does not come again may be found before or after the others. -/
theorem lookup_cons_or {key : String} {v : Value} {rest : List (String × Value)}
    (hkey : key ∉ rest.map Prod.fst) (l : String → Option Value) (k : String) :
    (((key, v) :: rest).lookup k).or (l k) =
      (rest.lookup k).or (if k = key then some v else l k) := by
  rw [Keyed.lookup_cons_eq]
  by_cases hk : k = key
  · subst hk
    rw [Keyed.lookup_eq_none_of_not_mem hkey, if_pos rfl, if_pos rfl]
    rfl
  · rw [if_neg hk, if_neg hk]

/-- Entries that are all taken give the view of what there is at each key. -/
theorem setEntries_of_accepts (h : Describes view fields) (hnodup : (entries.map Prod.fst).Nodup)
    (l : String → Option Value)
    (hall : ∀ e ∈ entries, ∃ f ∈ fields, f.name = e.1 ∧ f.Accepts e.2) :
    setEntries fields (view l) entries = .ok (view fun k => (entries.lookup k).or (l k)) := by
  induction entries generalizing l with
  | nil => rfl
  | cons e rest ih =>
    obtain ⟨key, v⟩ := e
    obtain ⟨f, hf, rfl, haccepts⟩ := hall (key, v) List.mem_cons_self
    rw [List.map_cons, List.nodup_cons] at hnodup
    rw [setEntries_cons_of_accepts h hf haccepts,
      ih hnodup.2 _ fun e he => hall e (List.mem_cons_of_mem _ he)]
    simp only [lookup_cons_or hnodup.1]

/-- **What entries are read as**: each one has to be taken by its field, and then the record is the
view of what there is at each key. -/
theorem setEntries_eq_ok_iff (h : Describes view fields) (hnodup : (entries.map Prod.fst).Nodup)
    (l : String → Option Value) :
    setEntries fields (view l) entries = .ok r ↔
      (∀ e ∈ entries, ∃ f ∈ fields, f.name = e.1 ∧ f.Accepts e.2) ∧
        r = view fun k => (entries.lookup k).or (l k) := by
  constructor
  · intro hset
    have hall := accepts_of_setEntries hset
    exact ⟨hall, Except.ok.inj (hset.symm.trans (setEntries_of_accepts h hnodup l hall))⟩
  · rintro ⟨hall, rfl⟩
    exact setEntries_of_accepts h hnodup l hall

/-- **What a table is read as.** -/
theorem record_table_eq_ok_iff (h : Describes view fields) (hnodup : (entries.map Prod.fst).Nodup)
    {name : String} (initial : α) (hinitial : view (fun _ => none) = initial) :
    record name fields initial (.table entries) = .ok r ↔
      (∀ e ∈ entries, ∃ f ∈ fields, f.name = e.1 ∧ f.Accepts e.2) ∧
        r = view fun k => entries.lookup k := by
  rw [record, ← hinitial, setEntries_eq_ok_iff h hnodup]
  simp only [Option.or_none]

/-! ### Fields that read a value and put it in -/

/-- What a reader makes of a value that is there and can be read. -/
def readOr (read : Value → Decoded β) (default : β) : Option Value → β
  | none => default
  | some v =>
    match read v with
    | .ok b => b
    | .error _ => default

theorem readOr_of_ok {read : Value → Decoded β} {default b : β} {v : Value} (h : read v = .ok b) :
    readOr read default (some v) = b := by
  rw [readOr, h]

/-- A field of this form takes what its reader reads. -/
theorem accepts_iff [Nonempty α] {name : String} {read : Value → Decoded β} {put : α → β → α}
    {v : Value} :
    Field.Accepts ⟨name, fun r v => (read v).map (put r)⟩ v ↔ ∃ b, read v = .ok b := by
  constructor
  · rintro ⟨r, r', h⟩
    cases hv : read v with
    | ok b => exact ⟨b, rfl⟩
    | error e =>
      simp only [hv] at h
      cases h
  · rintro ⟨b, hb⟩
    obtain ⟨r⟩ := ‹Nonempty α›
    refine ⟨r, put r b, ?_⟩
    simp only [hb]
    rfl

/-- A field of this form puts into a view what its reader reads. -/
theorem set_eq_of_put [Nonempty α] {name : String} {read : Value → Decoded β} {put : α → β → α}
    (hput : ∀ l v b, read v = .ok b →
      put (view l) b = view fun k => if k = name then some v else l k)
    (l : String → Option Value) (v : Value)
    (h : Field.Accepts ⟨name, fun r v => (read v).map (put r)⟩ v) :
    (read v).map (put (view l)) = .ok (view fun k => if k = name then some v else l k) := by
  obtain ⟨b, hb⟩ := accepts_iff.1 h
  rw [hb, ← hput l v b hb]
  rfl

/-! ### Texts and choices -/

/-- A text is a string or a date/time. -/
def IsText (v : Value) : Prop := (∃ s, v = .string s) ∨ ∃ d, v = .datetime d

theorem exists_text_iff {v : Value} : (∃ s, text v = .ok s) ↔ IsText v := by
  constructor
  · rintro ⟨s, hs⟩
    cases v with
    | string s => exact .inl ⟨s, rfl⟩
    | datetime d => exact .inr ⟨d, rfl⟩
    | _ => cases hs
  · rintro (⟨s, rfl⟩ | ⟨d, rfl⟩)
    · exact ⟨s, rfl⟩
    · exact ⟨d.text, rfl⟩

/-- The value is one of the names, or a table with one of them as its only key. -/
def NamesChoice (names : List String) (v : Value) : Prop :=
  ∃ name ∈ names, v = .string name ∨ ∃ content, v = .table [(name, content)]

theorem chosen_eq_ok_iff {choices : List (String × β)} {name : String} {b : β} :
    chosen choices name = .ok b ↔ choices.lookup name = some b := by
  rw [chosen]
  cases choices.lookup name with
  | some b' => simp
  | none => simp [fail]

theorem mem_names_of_chosen {choices : List (String × β)} {name : String} {b : β}
    (h : chosen choices name = .ok b) : name ∈ choices.map Prod.fst :=
  List.mem_map.2 ⟨(name, b), Keyed.mem_of_lookup (chosen_eq_ok_iff.1 h), rfl⟩

/-- A string is read as a choice when it is one of the names. -/
theorem exists_choice_string_iff {choices : List (String × β)} {name : String} :
    (∃ b, choice choices (.string name) = .ok b) ↔ name ∈ choices.map Prod.fst := by
  constructor
  · rintro ⟨b, hb⟩
    exact mem_names_of_chosen hb
  · intro hname
    obtain ⟨b, hb⟩ := Option.isSome_iff_exists.1 (Keyed.isSome_lookup_iff.2 hname)
    exact ⟨b, chosen_eq_ok_iff.2 hb⟩

/-- Nothing else is read as a choice. -/
theorem namesChoice_of_choice {choices : List (String × β)} {v : Value} {b : β}
    (h : choice choices v = .ok b) : NamesChoice (choices.map Prod.fst) v := by
  rw [choice.eq_def] at h
  split at h
  next name => exact ⟨name, mem_names_of_chosen h, .inl rfl⟩
  next name content =>
    cases hchosen : chosen choices name with
    | ok b' => exact ⟨name, mem_names_of_chosen hchosen, .inr ⟨content, rfl⟩⟩
    | error e =>
      rw [hchosen] at h
      cases h
  · cases h
  · cases h
  · cases h

/-! ### The records of a configuration -/

/-- A project's identity, by what there is at each key. -/
def projectView (l : String → Option Value) : Project where
  name := readOr text ({} : Project).name (l "name")
  version := readOr text ({} : Project).version (l "version")
  hostBaseUrl := readOr text ({} : Project).hostBaseUrl (l "host_base_url")
  archiveBaseUrl := readOr (fun v => (text v).map some) none (l "archive_base_url")
  archiveExtension := readOr text ({} : Project).archiveExtension (l "archive_extension")

/-- The shell's settings, by what there is at each key. -/
def siteView (l : String → Option Value) : SiteMeta where
  title := readOr text ({} : SiteMeta).title (l "title")
  tagline := readOr text ({} : SiteMeta).tagline (l "tagline")
  lang := readOr text ({} : SiteMeta).lang (l "lang")

/-- The anchor policy, by what there is at each key. -/
def linksView (l : String → Option Value) : LinkPolicy where
  anchorStyle := readOr (choice anchorStyles) ({} : LinkPolicy).anchorStyle (l "anchor_style")
  unknownSections := readOr (choice unknownSectionChoices) ({} : LinkPolicy).unknownSections
    (l "unknown_sections")

/-- A section entry of which fields may be missing, by what there is at each key. -/
def sectionView (l : String → Option Value) : SectionDraft where
  id? := readOr (fun v => (text v).map some) none (l "id")
  page? := readOr (fun v => (text v).map some) none (l "page")

/-- A configuration, by what there is at each key. -/
def configView (l : String → Option Value) : SiteConfig where
  project := readOr project {} (l "project")
  site := readOr site {} (l "site")
  links := readOr links {} (l "links")
  sections := readOr sections [] (l "sections")

instance : Nonempty Project := ⟨{}⟩

instance : Nonempty SiteMeta := ⟨{}⟩

instance : Nonempty LinkPolicy := ⟨{}⟩

instance : Nonempty SectionDraft := ⟨{}⟩

instance : Nonempty SiteConfig := ⟨{}⟩

theorem describes_project : Describes projectView projectFields where
  names := by decide
  set_eq := by
    intro f hf
    simp only [projectFields, List.mem_cons, List.not_mem_nil, or_false] at hf
    rcases hf with rfl | rfl | rfl | rfl | rfl
    all_goals
      refine set_eq_of_put fun l v s hs => ?_
      simp [projectView, readOr, hs, Except.map]

theorem describes_site : Describes siteView siteFields where
  names := by decide
  set_eq := by
    intro f hf
    simp only [siteFields, List.mem_cons, List.not_mem_nil, or_false] at hf
    rcases hf with rfl | rfl | rfl
    all_goals
      refine set_eq_of_put fun l v s hs => ?_
      simp [siteView, readOr, hs]

theorem describes_links : Describes linksView linkFields where
  names := by decide
  set_eq := by
    intro f hf
    simp only [linkFields, List.mem_cons, List.not_mem_nil, or_false] at hf
    rcases hf with rfl | rfl
    all_goals
      refine set_eq_of_put fun l v c hc => ?_
      simp [linksView, readOr, hc]

theorem describes_section : Describes sectionView sectionFields where
  names := by decide
  set_eq := by
    intro f hf
    simp only [sectionFields, List.mem_cons, List.not_mem_nil, or_false] at hf
    rcases hf with rfl | rfl
    all_goals
      refine set_eq_of_put fun l v s hs => ?_
      simp [sectionView, readOr, hs, Except.map]

theorem describes_config : Describes configView configFields where
  names := by decide
  set_eq := by
    intro f hf
    simp only [configFields, List.mem_cons, List.not_mem_nil, or_false] at hf
    rcases hf with rfl | rfl | rfl | rfl
    all_goals
      refine set_eq_of_put fun l v b hb => ?_
      simp [configView, readOr, hb]

/-! ### What the fields take -/

/-- The fields of a project's identity take texts. -/
theorem accepts_projectFields : ∀ f ∈ projectFields, ∀ v, f.Accepts v ↔ IsText v := by
  intro f hf v
  rw [← exists_text_iff]
  simp only [projectFields, List.mem_cons, List.not_mem_nil, or_false] at hf
  rcases hf with rfl | rfl | rfl | rfl | rfl <;> exact accepts_iff

/-- The fields of the shell's settings take texts. -/
theorem accepts_siteFields : ∀ f ∈ siteFields, ∀ v, f.Accepts v ↔ IsText v := by
  intro f hf v
  rw [← exists_text_iff]
  simp only [siteFields, List.mem_cons, List.not_mem_nil, or_false] at hf
  rcases hf with rfl | rfl | rfl <;> exact accepts_iff

/-- The fields of a section entry take texts. -/
theorem accepts_sectionFields : ∀ f ∈ sectionFields, ∀ v, f.Accepts v ↔ IsText v := by
  intro f hf v
  rw [← exists_text_iff]
  simp only [sectionFields, List.mem_cons, List.not_mem_nil, or_false] at hf
  rcases hf with rfl | rfl <;> exact accepts_iff

/-- Where all fields take texts, an entry is taken when its key is known and its value is a text. -/
theorem taken_iff_of_texts (htexts : ∀ f ∈ fields, ∀ v, f.Accepts v ↔ IsText v) {key : String}
    {v : Value} :
    (∃ f ∈ fields, f.name = key ∧ f.Accepts v) ↔ key ∈ fields.map Field.name ∧ IsText v := by
  rw [List.mem_map]
  constructor
  · rintro ⟨f, hf, hname, haccepts⟩
    exact ⟨⟨f, hf, hname⟩, (htexts f hf v).1 haccepts⟩
  · rintro ⟨⟨f, hf, hname⟩, htext⟩
    exact ⟨f, hf, hname, (htexts f hf v).2 htext⟩

/-! ### Section entries -/

theorem finish_eq_ok_iff {v : Value} {d : SectionDraft} {s : SectionEntry} :
    d.finish v = .ok s ↔ d.id? = some s.id ∧ d.page? = some s.page := by
  obtain ⟨id, page⟩ := s
  obtain ⟨id?, page?⟩ := d
  cases id? with
  | none => cases v <;> simp [SectionDraft.finish, fail]
  | some i =>
    cases page? with
    | none => cases v <;> simp [SectionDraft.finish, fail]
    | some p => simp [SectionDraft.finish]

theorem readOr_eq_some_iff {read : Value → Decoded β} {v? : Option Value} {b : β} :
    readOr (fun v => (read v).map some) none v? = some b ↔ ∃ v, v? = some v ∧ read v = .ok b := by
  cases v? with
  | none => simp [readOr]
  | some v =>
    simp only [readOr, Option.some.injEq, exists_eq_left']
    cases read v with
    | ok b' => simp [Except.map]
    | error e => simp [Except.map]

/-- **A section entry is read** when its keys are known, its values are texts, and both fields are
there. -/
theorem sectionEntry_table_eq_ok_iff (hnodup : (entries.map Prod.fst).Nodup) {s : SectionEntry} :
    sectionEntry (.table entries) = .ok s ↔
      (∀ e ∈ entries, e.1 ∈ sectionFields.map Field.name ∧ IsText e.2) ∧
        (∃ v, entries.lookup "id" = some v ∧ text v = .ok s.id) ∧
          ∃ v, entries.lookup "page" = some v ∧ text v = .ok s.page := by
  have hrecord : ∀ d, record "SectionEntry" sectionFields {} (.table entries) = .ok d ↔
      (∀ e ∈ entries, e.1 ∈ sectionFields.map Field.name ∧ IsText e.2) ∧
        d = sectionView fun k => entries.lookup k := by
    intro d
    rw [record_table_eq_ok_iff describes_section hnodup {} rfl]
    simp only [taken_iff_of_texts accepts_sectionFields]
  rw [sectionEntry, bind_eq_ok_iff]
  simp only [hrecord, finish_eq_ok_iff, sectionView, and_assoc, exists_and_left, exists_eq_left,
    readOr_eq_some_iff]

/-- A list of sections is read when each of its items is. -/
theorem sections_array_eq_ok_iff {items : List Value} {l : List SectionEntry} :
    sections (.array items) = .ok l ↔ items.map sectionEntry = l.map .ok := by
  rw [sections, mapM_eq_ok_iff]

/-! ### Policies and settings -/

/-- The anchor policy takes a choice under each of its keys. -/
theorem taken_links_iff {key : String} {v : Value} :
    (∃ f ∈ linkFields, f.name = key ∧ f.Accepts v) ↔
      ("anchor_style" = key ∧ ∃ style, choice anchorStyles v = .ok style) ∨
        "unknown_sections" = key ∧ ∃ what, choice unknownSectionChoices v = .ok what := by
  simp only [linkFields, List.mem_cons, List.not_mem_nil, or_false, exists_eq_or_imp,
    exists_eq_left, accepts_iff]

/-- A configuration takes a record under each of its keys, and a list of sections. -/
theorem taken_config_iff {key : String} {v : Value} :
    (∃ f ∈ configFields, f.name = key ∧ f.Accepts v) ↔
      ("project" = key ∧ ∃ p, project v = .ok p) ∨ ("site" = key ∧ ∃ m, site v = .ok m) ∨
        ("links" = key ∧ ∃ l, links v = .ok l) ∨
          "sections" = key ∧ ∃ s, sections v = .ok s := by
  simp only [configFields, List.mem_cons, List.not_mem_nil, or_false, exists_eq_or_imp,
    exists_eq_left, accepts_iff]

end Decode

end StaticSite
