import StaticSite.Proofs.SortedMap
import StaticSite.Toml.Merge

/-!
# Looking up keys in merged tables

`Value.mergeEntries` puts the entries of an overlay into a base one after the other. A table has
each key once, so seen from one key a single entry of the overlay matters: it is laid over what the
base has at the key, and where the overlay has nothing the base stays.

## Main results

* `Value.lookup_mergeEntries` — a merged table, key by key
* `Value.lookup_mergeEntries_of_flat` — over a base without tables inside, the overlay simply wins
* `Value.sorted_mergeEntries` — a merged table has its keys in order
* `Value.mem_keys_mergeEntries` — a merged table has the keys of both
* `Value.WellFormed.merge` — merging keeps every table in order
* `Value.lookup_entriesOf` — a table built from a list has what the list has
-/

namespace StaticSite

namespace Toml.Value

/-! ### Inside well-formed values -/

variable {items : List Value} {entries : List (String × Value)} {v : Value}

theorem allWellFormed_iff : AllWellFormed items ↔ ∀ v ∈ items, v.WellFormed := by
  induction items with
  | nil => simp [AllWellFormed]
  | cons v rest ih => rw [AllWellFormed, ih, List.forall_mem_cons]

theorem entriesWellFormed_iff : EntriesWellFormed entries ↔ ∀ e ∈ entries, e.2.WellFormed := by
  induction entries with
  | nil => simp [EntriesWellFormed]
  | cons e rest ih => rw [EntriesWellFormed, ih, List.forall_mem_cons]

theorem wellFormed_array_iff : (array items).WellFormed ↔ ∀ v ∈ items, v.WellFormed := by
  rw [WellFormed, allWellFormed_iff]

theorem wellFormed_table_iff :
    (table entries).WellFormed ↔ Keyed.Sorted entries ∧ ∀ e ∈ entries, e.2.WellFormed := by
  rw [WellFormed, entriesWellFormed_iff]

theorem wellFormed_empty : (table []).WellFormed :=
  wellFormed_table_iff.2 ⟨Keyed.Sorted.nil, List.forall_mem_nil _⟩

/-- A value that is in order may be put at any key. -/
theorem WellFormed.insert (h : (table entries).WellFormed) (k : String) (hv : v.WellFormed) :
    (table (Keyed.insert k v entries)).WellFormed := by
  obtain ⟨hsorted, hall⟩ := wellFormed_table_iff.1 h
  refine wellFormed_table_iff.2 ⟨hsorted.insert k v, fun e he => ?_⟩
  rcases Keyed.mem_insert he with rfl | he
  · exact hv
  · exact hall e he

/-! ### Merging by keys -/

variable {base overlay : List (String × Value)} {k : String}

/-- A value laid over what is at its key, if there is something. -/
def laidOver (v : Value) (old? : Option Value) : Value :=
  match old? with
  | some old => merge old v
  | none => v

/-- Only a table takes part in a merge; over anything else the overlay wins. -/
theorem laidOver_of_not_table {old? : Option Value} (h : ∀ entries, old? ≠ some (.table entries)) :
    v.laidOver old? = v := by
  cases old? with
  | none => rfl
  | some old =>
    cases old with
    | table entries => exact absurd rfl (h entries)
    | _ => rw [laidOver, merge]; simp

/-- And only a table is merged; anything else takes the place of what was there. -/
theorem laidOver_of_ne_table (h : ∀ entries, v ≠ .table entries) (old? : Option Value) :
    v.laidOver old? = v := by
  cases old? with
  | none => rfl
  | some old =>
    cases v with
    | table entries => exact absurd rfl (h entries)
    | _ => cases old <;> simp [laidOver, merge]

theorem laidOver_table (entries base : List (String × Value)) :
    (table entries).laidOver (some (.table base)) = .table (mergeEntries base entries) := by
  rw [laidOver, merge]

theorem mergeEntries_singleton (base : List (String × Value)) (k : String) (v : Value) :
    mergeEntries base [(k, v)] = Keyed.insert k (v.laidOver (base.lookup k)) base := by
  rw [mergeEntries, mergeEntries]
  rfl

/-- **A merged table, key by key.** -/
theorem lookup_mergeEntries (hnodup : (overlay.map Prod.fst).Nodup) (k : String) :
    (mergeEntries base overlay).lookup k =
      ((overlay.lookup k).map fun v => v.laidOver (base.lookup k)).or (base.lookup k) := by
  induction overlay generalizing base with
  | nil =>
    rw [mergeEntries]
    rfl
  | cons head rest ih =>
    obtain ⟨key, v⟩ := head
    rw [List.map_cons, List.nodup_cons] at hnodup
    rw [mergeEntries, ih hnodup.2, Keyed.lookup_insert, Keyed.lookup_cons_eq]
    by_cases hk : k = key
    · -- The key does not come again, so what was put there stays.
      subst hk
      rw [Keyed.lookup_eq_none_of_not_mem hnodup.1]
      simp only [if_pos, Option.map_none, Option.map_some, Option.none_or, Option.some_or]
      rfl
    · simp only [if_neg hk]

/-- **Over a base without tables inside, the overlay wins** wherever it has something. -/
theorem lookup_mergeEntries_of_flat (hnodup : (overlay.map Prod.fst).Nodup)
    (hflat : ∀ k entries, base.lookup k ≠ some (.table entries)) (k : String) :
    (mergeEntries base overlay).lookup k = (overlay.lookup k).or (base.lookup k) := by
  rw [lookup_mergeEntries hnodup]
  simp only [laidOver_of_not_table (hflat k), Option.map_id']

/-- Entries that ascend above a table are appended to it. -/
theorem mergeEntries_of_sorted_append (h : Keyed.Sorted (base ++ overlay)) :
    mergeEntries base overlay = base ++ overlay := by
  induction overlay generalizing base with
  | nil => rw [mergeEntries, List.append_nil]
  | cons head rest ih =>
    obtain ⟨key, v⟩ := head
    have habove : ∀ e ∈ base, e.1 < key :=
      fun e he => (List.pairwise_append.1 h).2.2 e he (key, v) List.mem_cons_self
    have hnone : base.lookup key = none := by
      refine Keyed.lookup_eq_none_of_not_mem fun hmem => ?_
      obtain ⟨e, he, heq⟩ := List.mem_map.1 hmem
      exact String.lt_irrefl key (heq ▸ habove e he)
    rw [mergeEntries, hnone, Keyed.insert_of_forall_lt habove, ih (by simpa using h)]
    simp

/-- A merged table has its keys in order. -/
theorem sorted_mergeEntries (h : Keyed.Sorted base) : Keyed.Sorted (mergeEntries base overlay) := by
  induction overlay generalizing base with
  | nil =>
    rw [mergeEntries]
    exact h
  | cons head rest ih =>
    rw [mergeEntries]
    exact ih (h.insert _ _)

/-- A merged table has the keys of both, and no others. -/
theorem mem_keys_mergeEntries (hnodup : (overlay.map Prod.fst).Nodup) {k : String} :
    k ∈ (mergeEntries base overlay).map Prod.fst ↔
      k ∈ base.map Prod.fst ∨ k ∈ overlay.map Prod.fst := by
  rw [← Keyed.isSome_lookup_iff, ← Keyed.isSome_lookup_iff, ← Keyed.isSome_lookup_iff,
    lookup_mergeEntries hnodup, Option.isSome_or, Option.isSome_map, Bool.or_eq_true, or_comm]

/-! ### Merging values -/

variable {b o : Value}

/-- The value is a table. -/
def IsTable (v : Value) : Prop :=
  ∃ entries, v = .table entries

theorem isTable_table (entries : List (String × Value)) : (table entries).IsTable :=
  ⟨entries, rfl⟩

theorem merge_table (base overlay : List (String × Value)) :
    merge (.table base) (.table overlay) = .table (mergeEntries base overlay) := by
  rw [merge]

/-- What is no table is replaced as a whole. -/
theorem merge_of_base_not_table (hb : ¬b.IsTable) (o : Value) : merge b o = o :=
  laidOver_of_not_table fun entries h => hb ⟨entries, Option.some.inj h⟩

/-- And it replaces as a whole. -/
theorem merge_of_overlay_not_table (ho : ¬o.IsTable) (b : Value) : merge b o = o :=
  laidOver_of_ne_table (fun entries h => ho ⟨entries, h⟩) (some b)

/-- **Induction over the tables inside a value**, by what they have at their keys. -/
theorem table_induction {motive : Value → Prop}
    (table : ∀ entries : List (String × Value),
      (∀ k v, entries.lookup k = some v → motive v) → motive (.table entries))
    (other : ∀ v : Value, ¬v.IsTable → motive v) (v : Value) : motive v := by
  induction hn : sizeOf v using Nat.strongRecOn generalizing v with
  | ind n ih =>
    by_cases hv : v.IsTable
    · obtain ⟨entries, rfl⟩ := hv
      refine table entries fun k w hk => ih (sizeOf w) ?_ w rfl
      have hmem := List.sizeOf_lt_of_mem (Keyed.mem_of_lookup hk)
      simp only [Prod.mk.sizeOf_spec] at hmem
      simp only [Value.table.sizeOf_spec] at hn
      omega
    · exact other v hv

/-- What a table that is in order has at a key is in order. -/
theorem WellFormed.of_lookup (h : (table entries).WellFormed) (hk : entries.lookup k = some v) :
    v.WellFormed :=
  (wellFormed_table_iff.1 h).2 _ (Keyed.mem_of_lookup hk)

theorem WellFormed.nodup_keys (h : (table entries).WellFormed) : (entries.map Prod.fst).Nodup :=
  (wellFormed_table_iff.1 h).1.nodup_keys

/-- **Tables in order are determined by what they have at each key.** -/
theorem WellFormed.table_eq (h : (table base).WellFormed) (h' : (table overlay).WellFormed)
    (hlookup : ∀ k, base.lookup k = overlay.lookup k) : table base = table overlay :=
  congrArg table
    ((wellFormed_table_iff.1 h).1.eq_of_lookup (wellFormed_table_iff.1 h').1 hlookup)

/-- Merging keeps tables in order. -/
theorem WellFormed.merge (hb : b.WellFormed) (ho : o.WellFormed) : (merge b o).WellFormed := by
  induction o using table_induction generalizing b with
  | other o hnot => rwa [merge_of_overlay_not_table hnot]
  | table overlay ih =>
    by_cases htable : b.IsTable
    · obtain ⟨base, rfl⟩ := htable
      rw [merge_table, wellFormed_table_iff]
      have hsorted : Keyed.Sorted (mergeEntries base overlay) :=
        sorted_mergeEntries (wellFormed_table_iff.1 hb).1
      refine ⟨hsorted, fun e he => ?_⟩
      have hlookup := Keyed.lookup_of_mem hsorted.nodup_keys he
      rw [lookup_mergeEntries ho.nodup_keys] at hlookup
      cases hk : overlay.lookup e.1 with
      | none =>
        rw [hk, Option.map_none, Option.none_or] at hlookup
        exact hb.of_lookup hlookup
      | some v =>
        rw [hk, Option.map_some, Option.some_or, Option.some.injEq] at hlookup
        rw [← hlookup]
        cases hbase : base.lookup e.1 with
        | none => exact ho.of_lookup hk
        | some old => exact ih _ v hk (hb.of_lookup hbase) (ho.of_lookup hk)
    · rwa [merge_of_base_not_table htable]

/-! ### Tables built from lists -/

/-- The entries of the table of a list. -/
def entriesOf (l : List (String × Value)) : List (String × Value) :=
  l.foldl (fun l e => Keyed.insert e.1 e.2 l) []

theorem lookup_foldl_insert {l : List (String × Value)} (hnodup : (l.map Prod.fst).Nodup)
    (before : List (String × Value)) (k : String) :
    (l.foldl (fun l e => Keyed.insert e.1 e.2 l) before).lookup k =
      (l.lookup k).or (before.lookup k) := by
  induction l generalizing before with
  | nil => rfl
  | cons e rest ih =>
    rw [List.map_cons, List.nodup_cons] at hnodup
    rw [List.foldl_cons, ih hnodup.2, Keyed.lookup_insert, Keyed.lookup_cons_eq]
    by_cases hk : k = e.1
    · subst hk
      rw [Keyed.lookup_eq_none_of_not_mem hnodup.1, if_pos rfl, if_pos rfl]
      rfl
    · rw [if_neg hk, if_neg hk]

/-- **A table built from a list has what the list has**, when the keys are distinct. -/
theorem lookup_entriesOf {l : List (String × Value)} (hnodup : (l.map Prod.fst).Nodup)
    (k : String) : (entriesOf l).lookup k = l.lookup k := by
  rw [entriesOf, lookup_foldl_insert hnodup]
  exact Option.or_none

theorem sorted_entriesOf (l : List (String × Value)) : Keyed.Sorted (entriesOf l) := by
  have hfold : ∀ before : List (String × Value), Keyed.Sorted before →
      Keyed.Sorted (l.foldl (fun l e => Keyed.insert e.1 e.2 l) before) := by
    induction l with
    | nil => exact fun _ h => h
    | cons e rest ih => exact fun _ h => ih _ (h.insert _ _)
  exact hfold [] Keyed.Sorted.nil

end Toml.Value

end StaticSite
