import Mathlib.Data.List.Induction
import Mathlib.Data.List.Nodup
import StaticSite.Proofs.SortedMap
import StaticSite.Proofs.Text.ByteOrder
import StaticSite.Toc

/-!
# Registering sections

A registration adds one section and changes no other, because it is refused for an id that is there
already, and a refusal leaves the table as it was. So a table knows each id by its first
registration, whatever came after it.

## Why the order of declarations does not count

A table is built only if no registration is refused, that is, if no id is declared twice. Then every
declaration has become an entry, and the entries of a table are in the order of the ids, so nothing
is left in it of the order in which the declarations came. When an id is declared twice, the order
does count: the first declaration that repeats an id is the one that is refused.

## Main results

* `Toc.pageOf_registerEach` — what a table has after any registrations, id by id
* `Toc.registerAll_eq_ok_iff` — declarations are all registered when no id is repeated
* `Toc.pageOf_build` — a section lives where it was declared
* `Toc.mem_declarations_iff` — a section is declared by a page or by the configuration
* `Toc.exists_repeated` — the first entry of a configuration that repeats an id, if one does
* `Toc.build_loses_nothing` — when a table is built, what it holds, and how it fails
-/

namespace StaticSite

namespace Toc

variable {t t' : Toc} {id page first second : String} {declared calls : List (String × String)}
  {pages : List (String × List String)} {extra : List SectionEntry}

/-! ### One registration -/

theorem register_of_none (h : t.pageOf id = none) :
    t.register id page = (⟨t.sections.insert id page⟩, .ok ()) := by
  rw [register, h]

theorem register_of_some (h : t.pageOf id = some first) :
    t.register id page = (t, .error (.duplicateSection id first page)) := by
  rw [register, h]

/-- **A refused registration leaves the table as it was**, and names where the section lives. -/
theorem register_eq_error_iff {e : TocError} :
    (t.register id page).2 = .error e ↔
      ∃ first, t.pageOf id = some first ∧ e = .duplicateSection id first page ∧
        (t.register id page).1 = t := by
  cases h : t.pageOf id with
  | none => simp [register_of_none h]
  | some first => simp [register_of_some h, eq_comm]

/-- One registration: a section that was not there, on its page. -/
theorem pageOf_register (t : Toc) (id page k : String) :
    (t.register id page).1.pageOf k = (t.pageOf k).or (if k = id then some page else none) := by
  cases h : t.pageOf id with
  | none =>
    have hinsert : (t.register id page).1.pageOf k = if k = id then some page else t.pageOf k := by
      rw [register_of_none h]
      exact SortedMap.get?_insert _ _ _ _
    rw [hinsert]
    by_cases hk : k = id
    · subst hk
      rw [if_pos rfl, if_pos rfl, h, Option.none_or]
    · rw [if_neg hk, if_neg hk, Option.or_none]
  | some first =>
    rw [register_of_some h]
    by_cases hk : k = id
    · subst hk
      rw [h, Option.some_or]
    · rw [if_neg hk, Option.or_none]

/-- The ids of a table are distinct. -/
theorem nodup_entries (t : Toc) : (t.entries.map Prod.fst).Nodup :=
  t.sections.sorted.nodup_keys

theorem pageOf_eq_none_iff : t.pageOf id = none ↔ id ∉ t.entries.map Prod.fst := by
  rw [← Keyed.isSome_lookup_iff, Bool.not_eq_true, Option.isSome_eq_false_iff,
    Option.isNone_iff_eq_none]
  rfl

theorem pageOf_eq_some_iff : t.pageOf id = some page ↔ (id, page) ∈ t.entries :=
  ⟨Keyed.mem_of_lookup, Keyed.lookup_of_mem t.nodup_entries⟩

theorem entries_register (h : t.pageOf id = none) (page : String) :
    (t.register id page).1.entries.Perm ((id, page) :: t.entries) := by
  rw [register_of_none h]
  exact Keyed.perm_insert (pageOf_eq_none_iff.1 h)

/-- With a section that was not there, the table has what a declaration list would have. -/
theorem entries_register_append (h : t.pageOf id = none) (page : String)
    (rest : List (String × String)) :
    (t.entries ++ (id, page) :: rest).Perm ((t.register id page).1.entries ++ rest) :=
  List.perm_middle.trans ((entries_register h page).append_right rest).symm

/-- An id that is not repeated is not in the table before it is registered. -/
theorem pageOf_eq_none_of_nodup {rest : List (String × String)}
    (h : ((t.entries ++ (id, page) :: rest).map Prod.fst).Nodup) : t.pageOf id = none := by
  refine pageOf_eq_none_iff.2 fun hid => ?_
  rw [List.map_append] at h
  exact List.disjoint_of_nodup_append h hid List.mem_cons_self

/-! ### Any registrations -/

/-- What a table is after registrations, of which some may have been refused. -/
def registerEach (t : Toc) (calls : List (String × String)) : Toc :=
  calls.foldl (fun t c => (t.register c.1 c.2).1) t

@[simp] theorem registerEach_nil (t : Toc) : t.registerEach [] = t := rfl

@[simp] theorem registerEach_cons (t : Toc) (c : String × String) (calls : List (String × String)) :
    t.registerEach (c :: calls) = (t.register c.1 c.2).1.registerEach calls := rfl

/-- **What a table has after any registrations**: what it had, and then the first page that each id
was given. -/
theorem pageOf_registerEach (t : Toc) (calls : List (String × String)) (k : String) :
    (t.registerEach calls).pageOf k = (t.pageOf k).or (calls.lookup k) := by
  induction calls generalizing t with
  | nil => rw [registerEach_nil, List.lookup_nil, Option.or_none]
  | cons c rest ih =>
    obtain ⟨id, page⟩ := c
    rw [registerEach_cons, ih, pageOf_register, Keyed.lookup_cons_eq, Option.or_assoc]
    by_cases hk : k = id
    · rw [if_pos hk, if_pos hk, Option.some_or]
    · rw [if_neg hk, if_neg hk, Option.none_or]

/-! ### Registrations none of which may be refused -/

/-- **Declarations are all registered when no id is repeated**, be it one of the table or one of the
declarations before. -/
theorem registerAll_eq_ok_iff :
    t.registerAll declared = .ok t' ↔
      ((t.entries ++ declared).map Prod.fst).Nodup ∧ t' = t.registerEach declared := by
  induction declared generalizing t with
  | nil =>
    rw [registerAll, List.append_nil, registerEach_nil]
    simp [t.nodup_entries, eq_comm]
  | cons d rest ih =>
    obtain ⟨id, page⟩ := d
    rw [registerAll, registerEach_cons]
    cases h : t.pageOf id with
    | none =>
      have hperm := (entries_register_append h page rest).map Prod.fst
      rw [hperm.nodup_iff, ← ih, register_of_none h]
    | some first =>
      rw [register_of_some h]
      simp only [reduceCtorEq, false_iff]
      rintro ⟨hnodup, -⟩
      rw [pageOf_eq_none_of_nodup hnodup] at h
      cases h

/-- When no id is repeated, every declaration becomes an entry. -/
theorem entries_registerEach (h : ((t.entries ++ declared).map Prod.fst).Nodup) :
    (t.registerEach declared).entries.Perm (t.entries ++ declared) := by
  induction declared generalizing t with
  | nil => rw [registerEach_nil, List.append_nil]
  | cons d rest ih =>
    obtain ⟨id, page⟩ := d
    have hperm := entries_register_append (pageOf_eq_none_of_nodup h) page rest
    rw [registerEach_cons]
    exact (ih ((hperm.map Prod.fst).nodup_iff.1 h)).trans hperm.symm

theorem registerAll_append (t : Toc) (before after : List (String × String)) :
    t.registerAll (before ++ after) =
      match t.registerAll before with
      | .ok t' => t'.registerAll after
      | .error e => .error e := by
  induction before generalizing t with
  | nil => rfl
  | cons d rest ih =>
    obtain ⟨id, page⟩ := d
    rw [List.cons_append, registerAll, registerAll]
    cases h : t.pageOf id with
    | none =>
      rw [register_of_none h]
      exact ih _
    | some first => rw [register_of_some h]

/-! ### Declarations that repeat an id -/

/-- The first declaration that repeats an id: the page the id had, and the one it is given again. -/
def FirstRepeat (declared : List (String × String)) (id first second : String) : Prop :=
  ∃ before after, declared = before ++ (id, second) :: after ∧ (before.map Prod.fst).Nodup ∧
    (id, first) ∈ before

/-- Behind declarations of different ids, one is the first to repeat an id if there is a repeated
one at all. -/
theorem exists_repeat_behind {front back : List (String × String)}
    (hfront : (front.map Prod.fst).Nodup) (h : ¬((front ++ back).map Prod.fst).Nodup) :
    ∃ before id second after first, back = before ++ (id, second) :: after ∧
      ((front ++ before).map Prod.fst).Nodup ∧ (id, first) ∈ front ++ before := by
  induction back using List.reverseRecOn with
  | nil => exact absurd (by simpa using hfront) h
  | append_singleton l d ih =>
    by_cases hl : ((front ++ l).map Prod.fst).Nodup
    · -- The ids before the last one are different, so it is the last one that repeats.
      obtain ⟨id, second⟩ := d
      have hid : id ∈ (front ++ l).map Prod.fst := by
        refine Decidable.byContradiction fun hid => h ?_
        rw [← List.append_assoc, List.map_append, List.map_singleton]
        exact hl.append (List.nodup_singleton _) (List.disjoint_singleton.2 hid)
      obtain ⟨⟨_, first⟩, hmem, rfl⟩ := List.mem_map.1 hid
      exact ⟨l, _, second, [], first, rfl, hl, hmem⟩
    · obtain ⟨before, id, second, after, first, rfl, hbefore, hmem⟩ := ih hl
      exact ⟨before, id, second, after ++ [d], first, by simp, hbefore, hmem⟩

/-- Declarations that are not all of different ids have one that is the first to repeat an id. -/
theorem exists_firstRepeat (h : ¬(declared.map Prod.fst).Nodup) :
    ∃ id first second, FirstRepeat declared id first second := by
  have hnil : (([] : List (String × String)).map Prod.fst).Nodup := List.nodup_nil
  obtain ⟨before, id, second, after, first, rfl, hbefore, hmem⟩ := exists_repeat_behind hnil h
  exact ⟨id, first, second, before, after, rfl, hbefore, hmem⟩

/-- The first declaration that repeats an id is the one that is refused. -/
theorem registerAll_of_firstRepeat (h : FirstRepeat declared id first second) :
    empty.registerAll declared = .error (.duplicateSection id first second) := by
  obtain ⟨before, after, rfl, hbefore, hmem⟩ := h
  have hok : empty.registerAll before = .ok (empty.registerEach before) :=
    registerAll_eq_ok_iff.2 ⟨hbefore, rfl⟩
  have hpage : (empty.registerEach before).pageOf id = some first := by
    rw [pageOf_registerEach, Keyed.lookup_of_mem hbefore hmem]
    rfl
  rw [registerAll_append, hok]
  simp only [registerAll, register_of_some hpage]

/-! ### The table of a site -/

theorem build_eq_ok_iff :
    build pages extra = .ok t ↔
      ((declarations pages extra).map Prod.fst).Nodup ∧
        t = empty.registerEach (declarations pages extra) :=
  registerAll_eq_ok_iff

/-- **A section lives where it was declared.** -/
theorem pageOf_build (h : build pages extra = .ok t) (k : String) :
    t.pageOf k = (declarations pages extra).lookup k := by
  obtain ⟨-, rfl⟩ := build_eq_ok_iff.1 h
  rw [pageOf_registerEach]
  rfl

/-- A table holds what was declared and nothing else. -/
theorem entries_build (h : build pages extra = .ok t) :
    t.entries.Perm (declarations pages extra) := by
  obtain ⟨hnodup, rfl⟩ := build_eq_ok_iff.1 h
  exact entries_registerEach (t := empty) hnodup

/-- The sections of a table ascend by the bytes of their ids. -/
theorem ascending_entries (t : Toc) :
    t.entries.Pairwise fun a b => Text.utf8Bytes a.1 < Text.utf8Bytes b.1 :=
  t.sections.sorted.imp fun hlt => Text.lt_iff_utf8Bytes_lt.1 hlt

/-- **The order of the declarations does not count.** -/
theorem build_of_perm {pages' : List (String × List String)} {extra' : List SectionEntry}
    (h : build pages extra = .ok t)
    (hperm : (declarations pages' extra').Perm (declarations pages extra)) :
    build pages' extra' = .ok t := by
  have hnodup : ((declarations pages' extra').map Prod.fst).Nodup :=
    (hperm.map Prod.fst).nodup_iff.2 (build_eq_ok_iff.1 h).1
  have h' := build_eq_ok_iff.2 ⟨hnodup, rfl⟩
  have hentries : (empty.registerEach (declarations pages' extra')).entries = t.entries :=
    Keyed.Sorted.eq_of_perm (SortedMap.sorted _) t.sections.sorted
      (((entries_build h').trans hperm).trans (entries_build h).symm)
  have heq : empty.registerEach (declarations pages' extra') = t :=
    congrArg Toc.mk (SortedMap.ext_entries hentries)
  rw [h', heq]

/-- **How a table fails to be built**: at the first declaration that repeats an id. -/
theorem build_eq_error_iff {e : TocError} :
    build pages extra = .error e ↔
      ∃ id first second, FirstRepeat (declarations pages extra) id first second ∧
        e = .duplicateSection id first second := by
  constructor
  · intro h
    have hrepeated : ¬((declarations pages extra).map Prod.fst).Nodup := by
      intro hnodup
      rw [build_eq_ok_iff.2 ⟨hnodup, rfl⟩] at h
      cases h
    obtain ⟨id, first, second, hfirst⟩ := exists_firstRepeat hrepeated
    have herror : build pages extra = .error (.duplicateSection id first second) :=
      registerAll_of_firstRepeat hfirst
    rw [herror] at h
    cases h
    exact ⟨id, first, second, hfirst, rfl⟩
  · rintro ⟨id, first, second, hfirst, rfl⟩
    exact registerAll_of_firstRepeat hfirst

/-- **The table of contents loses and shadows nothing.** It is built exactly when no id is declared
twice. Then it has every section on the page it was declared with and no other, ascending by the
bytes of the ids, and the same table comes out of the declarations in any order. Otherwise the first
declaration that repeats an id is named, with the page before it and its own. And whatever was
registered in a table or refused, one more refusal changes nothing in it. -/
theorem build_loses_nothing (pages : List (String × List String)) (extra : List SectionEntry) :
    ((∃ t, build pages extra = .ok t) ↔ ((declarations pages extra).map Prod.fst).Nodup) ∧
    (∀ t, build pages extra = .ok t →
      (∀ id page, t.pageOf id = some page ↔ (id, page) ∈ declarations pages extra) ∧
      (∀ id, t.pageOf id = none ↔ id ∉ (declarations pages extra).map Prod.fst) ∧
      t.size = (declarations pages extra).length ∧
      t.entries.Perm (declarations pages extra) ∧
      (t.entries.Pairwise fun a b => Text.utf8Bytes a.1 < Text.utf8Bytes b.1) ∧
      ∀ pages' extra', (declarations pages' extra').Perm (declarations pages extra) →
        build pages' extra' = .ok t) ∧
    (∀ e, build pages extra = .error e ↔
      ∃ id first second, FirstRepeat (declarations pages extra) id first second ∧
        e = .duplicateSection id first second) ∧
    ∀ calls id page e, ((empty.registerEach calls).register id page).2 = .error e →
      ((empty.registerEach calls).register id page).1 = empty.registerEach calls ∧
        ∃ first, calls.lookup id = some first ∧ e = .duplicateSection id first page := by
  refine ⟨⟨?_, fun hnodup => ⟨_, build_eq_ok_iff.2 ⟨hnodup, rfl⟩⟩⟩, ?_,
    fun e => build_eq_error_iff, ?_⟩
  · rintro ⟨t, h⟩
    exact (build_eq_ok_iff.1 h).1
  · intro t h
    have hperm := entries_build h
    refine ⟨fun id page => ?_, fun id => ?_, hperm.length_eq, hperm, t.ascending_entries,
      fun pages' extra' => build_of_perm h⟩
    · rw [pageOf_eq_some_iff, hperm.mem_iff]
    · rw [pageOf_eq_none_iff, (hperm.map Prod.fst).mem_iff]
  · intro calls id page e h
    obtain ⟨first, hfirst, rfl, hsame⟩ := register_eq_error_iff.1 h
    rw [pageOf_registerEach] at hfirst
    exact ⟨hsame, first, hfirst, rfl⟩

/-- A page that declares an id and a configuration that declares it again for the same page. -/
example : build [("index", ["news"])] [⟨"news", "index"⟩] =
    .error (.duplicateSection "news" "index" "index") := by decide

/-! ### What is declared -/

/-- A section is declared by a page that holds it, or by the configuration. -/
theorem mem_declarations_iff :
    (id, page) ∈ declarations pages extra ↔
      (∃ ids, (page, ids) ∈ pages ∧ id ∈ ids) ∨ ⟨id, page⟩ ∈ extra := by
  rw [declarations, List.mem_append]
  refine or_congr ?_ ?_
  · rw [List.mem_flatMap]
    constructor
    · rintro ⟨⟨p, ids⟩, hp, hid⟩
      obtain ⟨i, hi, heq⟩ := List.mem_map.1 hid
      cases heq
      exact ⟨ids, hp, hi⟩
    · rintro ⟨ids, hp, hid⟩
      exact ⟨(page, ids), hp, List.mem_map.2 ⟨id, hid, rfl⟩⟩
  · rw [List.mem_map]
    constructor
    · rintro ⟨s, hs, heq⟩
      cases heq
      exact hs
    · intro hs
      exact ⟨_, hs, rfl⟩

/-- The ids that are declared: those that the pages hold, and then those of the configuration. -/
theorem keys_declarations (pages : List (String × List String)) (extra : List SectionEntry) :
    (declarations pages extra).map Prod.fst =
      pages.flatMap Prod.snd ++ extra.map SectionEntry.id := by
  simp [declarations, List.map_flatMap, Function.comp_def]

theorem pageOf_build_ne_none_iff (h : build pages extra = .ok t) :
    t.pageOf id ≠ none ↔ id ∈ pages.flatMap Prod.snd ∨ id ∈ extra.map SectionEntry.id := by
  rw [pageOf_build h, ← List.mem_append, ← keys_declarations, ← Keyed.isSome_lookup_iff,
    Option.isSome_iff_ne_none]

/-! ### Entries that repeat an id -/

variable {before after : List SectionEntry} {s : SectionEntry}

theorem declarations_append (pages : List (String × List String))
    (before after : List SectionEntry) :
    declarations pages (before ++ after) =
      declarations pages before ++ after.map fun s => (s.id, s.page) := by
  simp [declarations]

/-- An entry of the configuration that repeats an id, behind others that do not, is refused. -/
theorem build_of_repeated (hbefore : ((declarations pages before).map Prod.fst).Nodup)
    (hmem : (s.id, first) ∈ declarations pages before) (after : List SectionEntry) :
    build pages (before ++ s :: after) = .error (.duplicateSection s.id first s.page) := by
  have hsplit : declarations pages (before ++ s :: after) =
      declarations pages before ++ (s.id, s.page) :: after.map fun s => (s.id, s.page) := by
    rw [declarations_append, List.map_cons]
  exact build_eq_error_iff.2 ⟨_, _, _, ⟨_, _, hsplit, hbefore, hmem⟩, rfl⟩

/-- When the pages alone repeat no id, it is an entry of the configuration that does so first. -/
theorem exists_repeated (hpages : (pages.flatMap Prod.snd).Nodup)
    (h : ¬((declarations pages extra).map Prod.fst).Nodup) :
    ∃ before s after first, extra = before ++ s :: after ∧
      ((declarations pages before).map Prod.fst).Nodup ∧
      (s.id, first) ∈ declarations pages before := by
  have hfront : ((declarations pages []).map Prod.fst).Nodup := by
    rwa [keys_declarations, List.map_nil, List.append_nil]
  have hsplit : declarations pages extra =
      declarations pages [] ++ extra.map fun s => (s.id, s.page) :=
    declarations_append pages [] extra
  rw [hsplit] at h
  obtain ⟨front, id, second, behind, first, hextra, hbefore, hmem⟩ := exists_repeat_behind hfront h
  obtain ⟨before, rest, rfl, rfl, hrest⟩ := List.map_eq_append_iff.1 hextra
  obtain ⟨s, after, rfl, hs, -⟩ := List.map_eq_cons_iff.1 hrest
  cases hs
  rw [← declarations_append, List.nil_append] at hbefore hmem
  exact ⟨before, s, after, first, rfl, hbefore, hmem⟩

end Toc

end StaticSite
