import StaticSite.SortedMap

/-!
# Looking up and rebuilding sorted maps

What `SortedMap.get?` gives back after an insertion, and that a map is determined by its entries:
inserting the entries of a map in order gives the map again.

## Main results

* `SortedMap.get?_insert` — an insertion changes the value at its key only
* `Keyed.perm_insert`, `Keyed.Sorted.eq_of_perm` — a new key adds its entry, and the order of the
  insertions does not count
* `Keyed.Sorted.eq_of_lookup` — entries in order are determined by what is found at each key
* `SortedMap.insert_of_get?` — putting a value where it already is changes nothing
* `SortedMap.ofList_entries` — a map is rebuilt from its entries
-/

namespace StaticSite

namespace Keyed

variable {α : Type u} {k k' : String} {v : α} {l : List (String × α)}

theorem lookup_cons_eq (k k' : String) (v : α) (l : List (String × α)) :
    ((k', v) :: l).lookup k = if k = k' then some v else l.lookup k := by
  by_cases h : k = k'
  · simp [h]
  · rw [List.lookup_cons, beq_false_of_ne h, if_neg h]

/-- **Lookup after insertion.** No hypothesis on the order of the list is needed. -/
theorem lookup_insert (k k' : String) (v : α) (l : List (String × α)) :
    (insert k v l).lookup k' = if k' = k then some v else l.lookup k' := by
  induction l with
  | nil => rw [insert, lookup_cons_eq]
  | cons head rest ih =>
    obtain ⟨k₁, v₁⟩ := head
    rw [insert]
    split
    · rw [lookup_cons_eq]
    · split
      next heq =>
        subst heq
        rw [lookup_cons_eq, lookup_cons_eq]
        by_cases h : k' = k <;> simp [h]
      next hne =>
        rw [lookup_cons_eq, lookup_cons_eq, ih]
        by_cases h : k' = k₁
        · subst h
          rw [if_pos rfl, if_pos rfl, if_neg (Ne.symm hne)]
        · rw [if_neg h, if_neg h]

/-! ### Keys and entries -/

theorem mem_of_lookup (h : l.lookup k = some v) : (k, v) ∈ l := by
  obtain ⟨l₁, l₂, rfl, -⟩ := List.lookup_eq_some_iff.1 h
  simp

theorem mem_keys_of_lookup (h : l.lookup k = some v) : k ∈ l.map Prod.fst :=
  List.mem_map.2 ⟨(k, v), mem_of_lookup h, rfl⟩

theorem isSome_lookup_iff : (l.lookup k).isSome ↔ k ∈ l.map Prod.fst := by
  induction l with
  | nil => simp
  | cons head rest ih =>
    obtain ⟨k₁, v₁⟩ := head
    rw [lookup_cons_eq, List.map_cons, List.mem_cons, ← ih]
    by_cases hk : k = k₁ <;> simp [hk]

theorem lookup_eq_none_of_not_mem (h : k ∉ l.map Prod.fst) : l.lookup k = none := by
  cases hl : l.lookup k with
  | none => rfl
  | some v => exact absurd (mem_keys_of_lookup hl) h

/-- With distinct keys, an entry is what is found at its key. -/
theorem lookup_of_mem (hnodup : (l.map Prod.fst).Nodup) (h : (k, v) ∈ l) : l.lookup k = some v := by
  induction l with
  | nil => cases h
  | cons head rest ih =>
    obtain ⟨k₁, v₁⟩ := head
    rw [List.map_cons, List.nodup_cons] at hnodup
    rw [lookup_cons_eq]
    rcases List.mem_cons.1 h with heq | hmem
    · cases heq
      rw [if_pos rfl]
    · have hkey : k ∈ rest.map Prod.fst := List.mem_map.2 ⟨(k, v), hmem, rfl⟩
      have hne : k ≠ k₁ := fun he => hnodup.1 (he ▸ hkey)
      rw [if_neg hne, ih hnodup.2 hmem]

/-- With distinct keys, a key has one value. -/
theorem value_unique {v' : α} (hnodup : (l.map Prod.fst).Nodup) (h : (k, v) ∈ l)
    (h' : (k, v') ∈ l) : v = v' :=
  Option.some.inj ((lookup_of_mem hnodup h).symm.trans (lookup_of_mem hnodup h'))

/-- Keys that ascend strictly are distinct. -/
theorem Sorted.nodup_keys (h : Sorted l) : (l.map Prod.fst).Nodup := by
  have hne : ∀ a b : String × α, a.1 < b.1 → a.1 ≠ b.1 := by
    intro a b hlt heq
    rw [heq] at hlt
    exact String.lt_irrefl _ hlt
  rw [List.nodup_iff_pairwise_ne, List.pairwise_map]
  exact h.imp fun {a b} => hne a b

/-! ### Insertions at the end and in place -/

/-- A key above every key of the list goes to its end. -/
theorem insert_of_forall_lt (h : ∀ e ∈ l, e.1 < k) : insert k v l = l ++ [(k, v)] := by
  induction l with
  | nil => rfl
  | cons head rest ih =>
    obtain ⟨k₁, v₁⟩ := head
    have hlt : k₁ < k := h (k₁, v₁) List.mem_cons_self
    have hne : k ≠ k₁ := fun he => String.lt_irrefl k (by rw [he] at hlt ⊢; exact hlt)
    rw [insert, if_neg (String.lt_asymm hlt), if_neg hne,
      ih fun e he => h e (List.mem_cons_of_mem _ he)]
    rfl

/-- A new key adds its entry and keeps the others. -/
theorem perm_insert (h : k ∉ l.map Prod.fst) : (insert k v l).Perm ((k, v) :: l) := by
  induction l with
  | nil => exact List.Perm.refl _
  | cons head rest ih =>
    obtain ⟨k₁, v₁⟩ := head
    rw [List.map_cons, List.mem_cons, not_or] at h
    obtain ⟨hne, hrest⟩ := h
    rw [insert]
    by_cases hlt : k < k₁
    · rw [if_pos hlt]
    · rw [if_neg hlt, if_neg hne]
      exact ((ih hrest).cons _).trans (List.Perm.swap _ _ _)

/-- Changing the values of entries goes along with an insertion. -/
theorem map_insert {β : Type v} (f : α → β) (k : String) (a : α) (l : List (String × α)) :
    (insert k a l).map (fun e => (e.1, f e.2)) = insert k (f a) (l.map fun e => (e.1, f e.2)) := by
  induction l with
  | nil => rfl
  | cons e rest ih =>
    obtain ⟨k', a'⟩ := e
    simp only [insert, List.map_cons]
    split
    · rfl
    · split
      · rfl
      · rw [List.map_cons, ih]

/-- Entries in order are determined by which entries there are. -/
theorem Sorted.eq_of_perm {l' : List (String × α)} (h : Sorted l) (h' : Sorted l')
    (hperm : l.Perm l') : l = l' := by
  refine hperm.eq_of_pairwise (fun a b _ _ hab hba => ?_) h h'
  exact absurd hba (String.lt_asymm hab)

theorem Sorted.nodup (h : Sorted l) : l.Nodup := by
  have hkeys := h.nodup_keys
  rw [List.nodup_iff_pairwise_ne, List.pairwise_map] at hkeys
  exact List.nodup_iff_pairwise_ne.2 (hkeys.imp fun hne heq => hne (congrArg Prod.fst heq))

/-- **Entries in order are determined by what is found at each key.** -/
theorem Sorted.eq_of_lookup {l' : List (String × α)} (h : Sorted l) (h' : Sorted l')
    (hlookup : ∀ k, l.lookup k = l'.lookup k) : l = l' := by
  refine h.eq_of_perm h' ((List.perm_ext_iff_of_nodup h.nodup h'.nodup).2 fun e => ?_)
  obtain ⟨k, v⟩ := e
  constructor
  · intro he
    exact mem_of_lookup ((hlookup k).symm.trans (lookup_of_mem h.nodup_keys he))
  · intro he
    exact mem_of_lookup ((hlookup k).trans (lookup_of_mem h'.nodup_keys he))

/-- Putting a value where it already is changes nothing. -/
theorem Sorted.insert_of_lookup (h : Sorted l) (hk : l.lookup k = some v) :
    Keyed.insert k v l = l := by
  induction l with
  | nil => simp at hk
  | cons head rest ih =>
    obtain ⟨k₁, v₁⟩ := head
    obtain ⟨hhead, hrest⟩ := List.pairwise_cons.1 h
    rw [lookup_cons_eq] at hk
    rw [Keyed.insert]
    by_cases he : k = k₁
    · subst he
      rw [if_pos rfl] at hk
      rw [if_neg (String.lt_irrefl k), if_pos rfl, Option.some.inj hk]
    · rw [if_neg he] at hk
      obtain ⟨l₁, l₂, hsplit, -⟩ := List.lookup_eq_some_iff.1 hk
      have hlt : k₁ < k := hhead (k, v) (by simp [hsplit])
      rw [if_neg (String.lt_asymm hlt), if_neg he, ih hrest hk]

end Keyed

namespace SortedMap

variable {α : Type u}

/-- Maps with the same entries are equal. -/
theorem ext_entries {m m' : SortedMap α} (h : m.entries = m'.entries) : m = m' := by
  obtain ⟨l, _⟩ := m
  obtain ⟨l', _⟩ := m'
  subst h
  rfl

theorem get?_insert (m : SortedMap α) (k k' : String) (v : α) :
    (m.insert k v).get? k' = if k' = k then some v else m.get? k' :=
  Keyed.lookup_insert k k' v m.entries

/-- Putting a value where it already is changes nothing. -/
theorem insert_of_get? {m : SortedMap α} {k : String} {v : α} (h : m.get? k = some v) :
    m.insert k v = m :=
  ext_entries (m.sorted.insert_of_lookup h)

/-- Entries that ascend above a map are appended to it. -/
theorem entries_foldl_insert (l : List (String × α)) (m : SortedMap α)
    (h : Keyed.Sorted (m.entries ++ l)) :
    (l.foldl (fun m e => m.insert e.1 e.2) m).entries = m.entries ++ l := by
  induction l generalizing m with
  | nil => simp
  | cons e rest ih =>
    have hins : (m.insert e.1 e.2).entries = m.entries ++ [e] :=
      Keyed.insert_of_forall_lt fun e' he' =>
        (List.pairwise_append.1 h).2.2 e' he' e List.mem_cons_self
    rw [List.foldl_cons, ih (m.insert e.1 e.2) (by rw [hins]; simpa using h), hins]
    simp

/-- **A map is rebuilt from its entries.** -/
theorem ofList_entries (m : SortedMap α) : ofList m.entries = m :=
  ext_entries (entries_foldl_insert m.entries empty m.sorted)

end SortedMap

end StaticSite
