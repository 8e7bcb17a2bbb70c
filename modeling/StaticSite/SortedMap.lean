/-!
# Maps with ascending keys

A finite map from texts is a list of entries in strictly ascending order of the keys, by code point.
The operations on entry lists are in the namespace `Keyed`, so that recursive data types can hold
entry lists directly; `SortedMap` bundles a list with its order.

`Keyed.insert` is a single pass that replaces an entry with the same key, so its effect on `lookup`
needs no hypothesis on the order.
-/

namespace StaticSite

namespace Keyed

variable {α : Type u}

/-- The keys ascend strictly. -/
def Sorted (l : List (String × α)) : Prop :=
  l.Pairwise fun a b => a.1 < b.1

instance (l : List (String × α)) : Decidable (Sorted l) :=
  inferInstanceAs (Decidable (l.Pairwise _))

/-- Put a value at a key, in place of the value that was there. -/
def insert (k : String) (v : α) : List (String × α) → List (String × α)
  | [] => [(k, v)]
  | (k', v') :: rest =>
    if k < k' then (k, v) :: (k', v') :: rest
    else if k = k' then (k, v) :: rest
    else (k', v') :: insert k v rest

/-- An entry of the result is the new one or an old one. -/
theorem mem_insert {k : String} {v : α} {e : String × α} {l : List (String × α)}
    (h : e ∈ insert k v l) : e = (k, v) ∨ e ∈ l := by
  induction l with
  | nil => exact .inl (by simpa [insert] using h)
  | cons head rest ih =>
    obtain ⟨k', v'⟩ := head
    simp only [insert] at h
    split at h
    · exact (List.mem_cons.1 h).imp id id
    · split at h
      · exact (List.mem_cons.1 h).imp id (List.mem_cons_of_mem _)
      · rcases List.mem_cons.1 h with h | h
        · exact .inr (h ▸ List.mem_cons_self)
        · exact (ih h).imp id (List.mem_cons_of_mem _)

theorem Sorted.nil : Sorted ([] : List (String × α)) := List.Pairwise.nil

/-- Insertion keeps the keys in order. -/
theorem Sorted.insert {l : List (String × α)} (h : Sorted l) (k : String) (v : α) :
    Sorted (Keyed.insert k v l) := by
  induction l with
  | nil => exact List.pairwise_singleton _ _
  | cons head rest ih =>
    obtain ⟨k', v'⟩ := head
    obtain ⟨hhead, hrest⟩ := List.pairwise_cons.1 h
    simp only [Keyed.insert]
    split
    next hlt =>
      refine List.pairwise_cons.2 ⟨fun e he => ?_, h⟩
      rcases List.mem_cons.1 he with rfl | he
      · exact hlt
      · exact String.lt_trans hlt (hhead e he)
    next hnlt =>
      split
      next heq => exact List.pairwise_cons.2 ⟨fun e he => heq ▸ hhead e he, hrest⟩
      next hne =>
        refine List.pairwise_cons.2 ⟨fun e he => ?_, ih hrest⟩
        rcases mem_insert he with rfl | he
        · refine Decidable.byContradiction fun hk => hne ?_
          exact String.le_antisymm (String.not_lt.1 hk) (String.not_lt.1 hnlt)
        · exact hhead e he

end Keyed

/-- A finite map from texts, as its entries in ascending order of the keys. -/
structure SortedMap (α : Type u) where
  entries : List (String × α)
  sorted : Keyed.Sorted entries
deriving DecidableEq

namespace SortedMap

variable {α : Type u}

/-- The map without entries. -/
def empty : SortedMap α := ⟨[], Keyed.Sorted.nil⟩

instance : EmptyCollection (SortedMap α) := ⟨empty⟩

/-- The value at a key. -/
def get? (m : SortedMap α) (k : String) : Option α := m.entries.lookup k

/-- Put a value at a key, in place of the value that was there. -/
def insert (m : SortedMap α) (k : String) (v : α) : SortedMap α :=
  ⟨Keyed.insert k v m.entries, m.sorted.insert k v⟩

/-- The map of a list of entries, later ones winning. -/
def ofList (l : List (String × α)) : SortedMap α :=
  l.foldl (fun m e => m.insert e.1 e.2) empty

/-- The number of entries. -/
def size (m : SortedMap α) : Nat := m.entries.length

end SortedMap

end StaticSite
