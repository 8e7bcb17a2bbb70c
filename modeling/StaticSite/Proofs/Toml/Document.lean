import StaticSite.Proofs.Toml.Merge
import StaticSite.Toml.Document

/-!
# The tables of a document

A TOML document cannot give a key twice, and the value that is read from it shows this: every table
in it, at every depth, has its keys in strictly ascending order.

## The invariant

While a document is read its tables are under construction, and a header may still add to a table
that was begun many lines before. What every line keeps is that the document would be in order if it
ended there (`Node.Ordered`). A key is always put in by `Keyed.insert`, which keeps the order
whatever the key is, so nothing has to be known about which additions are allowed.

## Main results

* `Node.Ordered.addAt`, `Node.Ordered.defineTable`, `Node.Ordered.beginTable` — one addition
* `readLine_ordered` — one line
* `parse?_wellFormed` — a document that is read is in order at every depth
-/

namespace StaticSite

namespace Toml

/-! ### Tables under construction -/

namespace Node

variable {entries entries' : List (String × Node)} {node : Node} {k : String} {v : Value}

theorem entriesToValue_eq (entries : List (String × Node)) :
    entriesToValue entries = entries.map fun e => (e.1, e.2.toValue) := by
  induction entries with
  | nil => rfl
  | cons e rest ih => rw [entriesToValue, ih, List.map_cons]

theorem tablesToValue_eq (tables : List (List (String × Node))) :
    tablesToValue tables = tables.map fun entries => .table (entriesToValue entries) := by
  induction tables with
  | nil => rfl
  | cons entries rest ih => rw [tablesToValue, ih, List.map_cons]

/-- The table would be in order if nothing more was added. -/
def Ordered (entries : List (String × Node)) : Prop :=
  (Value.table (entriesToValue entries)).WellFormed

theorem ordered_nil : Ordered [] := Value.wellFormed_empty

theorem wellFormed_value : (Node.value v).toValue.WellFormed ↔ v.WellFormed := by
  rw [toValue]

theorem wellFormed_table {origin : Origin} :
    (Node.table origin entries).toValue.WellFormed ↔ Ordered entries := by
  rw [toValue, Ordered]

theorem wellFormed_tables {earlier : List (List (String × Node))} {last : List (String × Node)} :
    (Node.tables earlier last).toValue.WellFormed ↔ (∀ t ∈ earlier, Ordered t) ∧ Ordered last := by
  rw [toValue, Value.wellFormed_array_iff, tablesToValue_eq, List.forall_mem_append,
    List.forall_mem_singleton]
  simp [Ordered]

theorem Ordered.insert (h : Ordered entries) (k : String) (hnode : node.toValue.WellFormed) :
    Ordered (Keyed.insert k node entries) := by
  rw [Ordered, entriesToValue_eq, Keyed.map_insert, ← entriesToValue_eq]
  exact Value.WellFormed.insert h k hnode

theorem Ordered.of_lookup (h : Ordered entries) (hk : entries.lookup k = some node) :
    node.toValue.WellFormed := by
  rw [Ordered, Value.wellFormed_table_iff, entriesToValue_eq] at h
  exact h.2 (k, node.toValue) (List.mem_map.2 ⟨(k, node), Keyed.mem_of_lookup hk, rfl⟩)

/-- A part is changed and put back at its key. -/
theorem Ordered.put_back {inner? : Option (List (String × Node))}
    {wrap : List (String × Node) → Node} (h : Ordered entries)
    (hput : (inner?.map fun inner => Keyed.insert k (wrap inner) entries) = some entries')
    (hwrap : ∀ inner, inner? = some inner → (wrap inner).toValue.WellFormed) :
    Ordered entries' := by
  obtain ⟨inner, hinner, rfl⟩ := Option.map_eq_some_iff.1 hput
  exact h.insert k (hwrap inner hinner)

/-- **A value that is added** at a dotted key. -/
theorem Ordered.addAt {path : List String} (h : Ordered entries) (hv : v.WellFormed)
    (hadd : addAt entries k v path = some entries') : Ordered entries' := by
  induction path generalizing entries entries' with
  | nil =>
    rw [Node.addAt] at hadd
    split at hadd
    · cases hadd
      exact h.insert k (wellFormed_value.2 hv)
    · cases hadd
  | cons first path ih =>
    rw [Node.addAt] at hadd
    split at hadd
    · exact h.put_back hadd fun inner hinner => wellFormed_table.2 (ih ordered_nil hinner)
    next inner hlookup =>
      have hinner := wellFormed_table.1 (h.of_lookup hlookup)
      exact h.put_back hadd fun _ hadded => wellFormed_table.2 (ih hinner hadded)
    next inner hlookup =>
      have hinner := wellFormed_table.1 (h.of_lookup hlookup)
      split at hadd
      · cases hadd
      · exact h.put_back hadd fun _ hadded => wellFormed_table.2 (ih hinner hadded)
    next earlier last hlookup =>
      obtain ⟨hearlier, hlast⟩ := wellFormed_tables.1 (h.of_lookup hlookup)
      split at hadd
      · cases hadd
      · exact h.put_back hadd fun _ hadded => wellFormed_tables.2 ⟨hearlier, ih hlast hadded⟩
    · cases hadd
    · cases hadd

/-- **A table that a header defines.** -/
theorem Ordered.defineTable {path : List String} (h : Ordered entries)
    (hdefine : defineTable entries k path = some entries') : Ordered entries' := by
  induction path generalizing k entries entries' with
  | nil =>
    rw [Node.defineTable] at hdefine
    split at hdefine
    · cases hdefine
      exact h.insert k (wellFormed_table.2 ordered_nil)
    next inner hlookup =>
      cases hdefine
      exact h.insert k (wellFormed_table.2 (wellFormed_table.1 (h.of_lookup hlookup)))
    · cases hdefine
  | cons next path ih =>
    rw [Node.defineTable] at hdefine
    split at hdefine
    · exact h.put_back hdefine fun inner hinner => wellFormed_table.2 (ih ordered_nil hinner)
    next origin inner hlookup =>
      have hinner := wellFormed_table.1 (h.of_lookup hlookup)
      exact h.put_back hdefine fun _ hdefined => wellFormed_table.2 (ih hinner hdefined)
    next earlier last hlookup =>
      obtain ⟨hearlier, hlast⟩ := wellFormed_tables.1 (h.of_lookup hlookup)
      exact h.put_back hdefine fun _ hdefined => wellFormed_tables.2 ⟨hearlier, ih hlast hdefined⟩
    · cases hdefine

/-- **A table that a header in double brackets begins.** -/
theorem Ordered.beginTable {path : List String} (h : Ordered entries)
    (hbegin : beginTable entries k path = some entries') : Ordered entries' := by
  induction path generalizing k entries entries' with
  | nil =>
    rw [Node.beginTable] at hbegin
    split at hbegin
    · cases hbegin
      exact h.insert k (wellFormed_tables.2 ⟨List.forall_mem_nil _, ordered_nil⟩)
    next earlier last hlookup =>
      cases hbegin
      obtain ⟨hearlier, hlast⟩ := wellFormed_tables.1 (h.of_lookup hlookup)
      exact h.insert k (wellFormed_tables.2 ⟨List.forall_mem_cons.2 ⟨hlast, hearlier⟩, ordered_nil⟩)
    · cases hbegin
  | cons next path ih =>
    rw [Node.beginTable] at hbegin
    split at hbegin
    · exact h.put_back hbegin fun inner hinner => wellFormed_table.2 (ih ordered_nil hinner)
    next origin inner hlookup =>
      have hinner := wellFormed_table.1 (h.of_lookup hlookup)
      exact h.put_back hbegin fun _ hbegun => wellFormed_table.2 (ih hinner hbegun)
    next earlier last hlookup =>
      obtain ⟨hearlier, hlast⟩ := wellFormed_tables.1 (h.of_lookup hlookup)
      exact h.put_back hbegin fun _ hbegun => wellFormed_tables.2 ⟨hearlier, ih hlast hbegun⟩
    · cases hbegin

/-- A change that keeps the order, made at the table that headers have led to. -/
theorem Ordered.changeAt {f : List (String × Node) → Option (List (String × Node))}
    (hf : ∀ inner inner', Ordered inner → f inner = some inner' → Ordered inner')
    {path : List String} (h : Ordered entries)
    (hchange : changeAt f entries path = some entries') : Ordered entries' := by
  induction path generalizing entries entries' with
  | nil =>
    rw [Node.changeAt] at hchange
    exact hf _ _ h hchange
  | cons key path ih =>
    rw [Node.changeAt] at hchange
    split at hchange
    next origin inner hlookup =>
      have hinner := wellFormed_table.1 (h.of_lookup hlookup)
      exact h.put_back hchange fun _ hchanged => wellFormed_table.2 (ih hinner hchanged)
    next earlier last hlookup =>
      obtain ⟨hearlier, hlast⟩ := wellFormed_tables.1 (h.of_lookup hlookup)
      exact h.put_back hchange fun _ hchanged => wellFormed_tables.2 ⟨hearlier, ih hlast hchanged⟩
    · cases hchange

end Node

/-! ### Values -/

/-- A value without values inside it. -/
def Value.IsScalar : Value → Prop
  | .array _ => False
  | .table _ => False
  | _ => True

theorem Value.IsScalar.wellFormed {v : Value} (h : v.IsScalar) : v.WellFormed := by
  cases v with
  | array items => exact h.elim
  | table entries => exact h.elim
  | _ => simp [WellFormed]

variable {s rest : List Char} {v : Value}

theorem integer?_isScalar {n : Int} (h : integer? n = some v) : v.IsScalar := by
  rw [integer?] at h
  split at h
  · cases h
    trivial
  · cases h

theorem readInBase_isScalar {base : Nat} {isDigit : Char → Bool}
    (h : readInBase base isDigit s = some (v, rest)) : v.IsScalar := by
  simp only [readInBase, Option.bind_eq_bind, Option.bind_eq_some_iff] at h
  obtain ⟨⟨digits, behind⟩, -, v', hv, heq⟩ := h
  cases heq
  exact integer?_isScalar hv

theorem readInteger_isScalar (h : readInteger s = some (v, rest)) : v.IsScalar := by
  rw [readInteger.eq_def] at h
  split at h
  · exact readInBase_isScalar h
  · exact readInBase_isScalar h
  · exact readInBase_isScalar h
  · simp only [Option.bind_eq_bind, Option.bind_eq_some_iff] at h
    obtain ⟨⟨digits, behind⟩, -, v', hv, heq⟩ := h
    cases heq
    exact integer?_isScalar hv

theorem readFloat_isScalar (h : readFloat s = some (v, rest)) : v.IsScalar := by
  simp only [readFloat, Option.bind_eq_bind, Option.bind_eq_some_iff] at h
  obtain ⟨⟨whole, s₁⟩, -, h⟩ := h
  split at h
  -- However the fraction begins, what follows it is read in the same way.
  all_goals
    simp only [Option.bind_eq_some_iff] at h
    obtain ⟨⟨fraction, s₂⟩, -, ⟨exponent, s₃⟩, -, heq⟩ := h
    split at heq
    · cases heq
    · cases heq
      trivial

theorem readFloatWord_isScalar (h : readFloatWord s = some (v, rest)) : v.IsScalar := by
  simp only [readFloatWord] at h
  split at h
  · cases h
    trivial
  · cases h
    trivial
  · cases h

theorem readDatetime_isScalar (h : readDatetime s = some (v, rest)) : v.IsScalar := by
  rw [readDatetime.eq_def] at h
  split at h
  · split at h
    · obtain ⟨r, -, heq⟩ := Option.map_eq_some_iff.1 h
      cases heq
      trivial
    · cases h
      trivial
  · obtain ⟨r, -, heq⟩ := Option.map_eq_some_iff.1 h
    cases heq
    trivial

theorem readBoolean_isScalar (h : readBoolean s = some (v, rest)) : v.IsScalar := by
  rw [readBoolean.eq_def] at h
  split at h
  · cases h
    trivial
  · cases h
    trivial
  · cases h

theorem readScalar_isScalar (h : readScalar s = some (v, rest)) : v.IsScalar := by
  rw [readScalar.eq_def] at h
  split at h
  · obtain ⟨r, -, heq⟩ := Option.map_eq_some_iff.1 h
    cases heq
    trivial
  · obtain ⟨r, -, heq⟩ := Option.map_eq_some_iff.1 h
    cases heq
    trivial
  · simp only [Option.orElse_eq_orElse, Option.orElse_eq_or, Option.or_eq_some_iff] at h
    rcases h with h | ⟨-, h | ⟨-, h | ⟨-, h | ⟨-, h⟩⟩⟩⟩
    · exact readBoolean_isScalar h
    · exact readFloatWord_isScalar h
    · exact readDatetime_isScalar h
    · exact readFloat_isScalar h
    · exact readInteger_isScalar h

/-- What is read with this much fuel is in order. -/
structure ReadsOrdered (fuel : Nat) : Prop where
  value : ∀ {depth s v rest}, readValue depth fuel s = some (v, rest) → v.WellFormed
  items : ∀ {depth s items rest}, readItems depth fuel s = some (items, rest) →
    ∀ v ∈ items, v.WellFormed
  entries : ∀ {depth entries s entries' rest},
    readEntries depth fuel entries s = some (entries', rest) → Node.Ordered entries →
      Node.Ordered entries'

namespace ReadsOrdered

variable {fuel depth : Nat} {items : List Value} {entries entries' : List (String × Node)}

theorem value_succ (h : ReadsOrdered fuel) (hread : readValue depth (fuel + 1) s = some (v, rest)) :
    v.WellFormed := by
  rw [readValue.eq_def] at hread
  simp only at hread
  split at hread
  · split at hread
    · obtain ⟨⟨items, behind⟩, hitems, heq⟩ := Option.map_eq_some_iff.1 hread
      cases heq
      exact Value.wellFormed_array_iff.2 (h.items hitems)
    · cases hread
  · split at hread
    · split at hread
      · cases hread
        exact Value.wellFormed_empty
      · obtain ⟨⟨entries, behind⟩, hentries, heq⟩ := Option.map_eq_some_iff.1 hread
        cases heq
        exact h.entries hentries Node.ordered_nil
    · cases hread
  · exact (readScalar_isScalar hread).wellFormed

theorem items_succ (h : ReadsOrdered fuel)
    (hread : readItems depth (fuel + 1) s = some (items, rest)) : ∀ v ∈ items, v.WellFormed := by
  rw [readItems.eq_def] at hread
  simp only at hread
  split at hread
  · cases hread
    exact List.forall_mem_nil _
  · split at hread
    · cases hread
    next v behind hv =>
      split at hread
      · obtain ⟨⟨others, behind'⟩, hothers, heq⟩ := Option.map_eq_some_iff.1 hread
        cases heq
        exact List.forall_mem_cons.2 ⟨h.value hv, h.items hothers⟩
      · cases hread
        exact List.forall_mem_singleton.2 (h.value hv)
      · cases hread

theorem entries_succ (h : ReadsOrdered fuel)
    (hread : readEntries depth (fuel + 1) entries s = some (entries', rest))
    (hentries : Node.Ordered entries) : Node.Ordered entries' := by
  rw [readEntries] at hread
  split at hread
  · split at hread
    · cases hread
    · split at hread
      · cases hread
      next v behind hv =>
        simp only at hread
        split at hread
        · cases hread
        next added hadd =>
          have hadded := hentries.addAt (h.value hv) hadd
          split at hread
          · exact h.entries hread hadded
          · cases hread
            exact hadded
          · cases hread
  · cases hread

end ReadsOrdered

/-- **Whatever the fuel, what is read is in order.** -/
theorem readsOrdered (fuel : Nat) : ReadsOrdered fuel := by
  induction fuel with
  | zero =>
    constructor
    case value =>
      intro depth s v rest hread
      rw [readValue] at hread
      cases hread
    case items =>
      intro depth s items rest hread
      rw [readItems] at hread
      cases hread
    case entries =>
      intro depth entries s entries' rest hread
      rw [readEntries] at hread
      cases hread
  | succ fuel ih => exact ⟨ih.value_succ, ih.items_succ, ih.entries_succ⟩

/-! ### Lines -/

variable {d d' : Draft}

theorem readKeyLine_ordered (h : Node.Ordered d.entries)
    (hread : readKeyLine d s = some (d', rest)) : Node.Ordered d'.entries := by
  rw [readKeyLine] at hread
  split at hread
  · split at hread
    · cases hread
    · split at hread
      · cases hread
      next v behind hv =>
        simp only at hread
        split at hread
        next entries end' hchange hend =>
          cases hread
          have hwell := (readsOrdered _).value hv
          exact h.changeAt (fun inner inner' hinner hadd => hinner.addAt hwell hadd) hchange
        · cases hread
  · cases hread

theorem readHeader_ordered {change : List (String × Node) → String → List String →
      Option (List (String × Node))} {close : List Char → Option (List Char)}
    (hchange : ∀ key path entries', change d.entries key path = some entries' →
      Node.Ordered entries')
    (hread : readHeader change close d s = some (d', rest)) : Node.Ordered d'.entries := by
  rw [readHeader] at hread
  split at hread
  · split at hread
    · cases hread
    · split at hread
      next entries end' hchanged hend =>
        cases hread
        exact hchange _ _ _ hchanged
      · cases hread
  · cases hread

/-- **One line keeps the order.** -/
theorem readLine_ordered (h : Node.Ordered d.entries) (hread : readLine d s = some (d', rest)) :
    Node.Ordered d'.entries := by
  rw [readLine.eq_def] at hread
  split at hread
  · exact readHeader_ordered (fun key path entries' hbegin => h.beginTable hbegin) hread
  · exact readHeader_ordered (fun key path entries' hdefine => h.defineTable hdefine) hread
  · obtain ⟨behind, -, heq⟩ := Option.map_eq_some_iff.1 hread
    cases heq
    exact h
  · split at hread
    · cases hread
      exact h
    · exact readKeyLine_ordered h hread

/-- All lines keep the order. -/
theorem readLines_ordered {fuel : Nat} (h : Node.Ordered d.entries)
    (hread : readLines fuel d s = some d') : Node.Ordered d'.entries := by
  induction fuel generalizing d s with
  | zero =>
    rw [readLines] at hread
    cases hread
  | succ fuel ih =>
    rw [readLines] at hread
    split at hread
    · cases hread
      exact h
    · split at hread
      next next behind hline => exact ih (readLine_ordered h hline) hread
      · cases hread

/-- **A document is in order at every depth**, so no table in it has a key twice. -/
theorem parse?_wellFormed {text : String} (h : parse? text = some v) :
    ∃ entries, v = .table entries ∧ v.WellFormed := by
  obtain ⟨d, hread, rfl⟩ := Option.map_eq_some_iff.1 h
  exact ⟨_, rfl, readLines_ordered Node.ordered_nil hread⟩

end Toml

end StaticSite
