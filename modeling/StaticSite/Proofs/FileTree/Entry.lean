import StaticSite.FileTree

/-!
# What a tree holds after a change

`FileTree.entry?` is the view of a tree: every operation is described by what it does to the entry
at each location. Nothing is assumed about the list behind a tree, so the lemmas hold of trees in
which a file has something below it as well.

## Main results

* `FileTree.entry?_put`, `FileTree.entry?_remove` — the two ways a tree changes
* `FileTree.put_put_self` — putting the same entry again changes nothing, not even the list
* `Location.below_injective` — names in one directory are told apart
-/

namespace StaticSite

/-! ### Locations -/

namespace Location

variable {loc dir : Location} {name : String}

theorem ext_toList {a b : Location} (h : a.text.toList = b.text.toList) : a = b := by
  obtain ⟨a⟩ := a
  obtain ⟨b⟩ := b
  exact congrArg Location.mk (String.toList_inj.1 h)

theorem toList_text_eq_nil : loc.text.toList = [] ↔ loc = top := by
  constructor
  · exact fun h => ext_toList h
  · rintro rfl
    rfl

/-- What stands in front of the names in a directory. -/
def stem (dir : Location) : List Char :=
  if dir = top then [] else dir.text.toList ++ ['/']

@[simp] theorem toList_below (dir : Location) (name : String) :
    (dir.below name).text.toList = dir.stem ++ name.toList := by
  rw [below, stem]
  split
  · rfl
  · simp [String.join]

theorem below_injective {dir : Location} {a b : String} (h : dir.below a = dir.below b) :
    a = b := by
  have h' := congrArg (fun l : Location => l.text.toList) h
  rw [toList_below, toList_below] at h'
  exact String.toList_inj.1 (List.append_cancel_left h')

theorem below_ne_top (dir : Location) (h : name ≠ "") : dir.below name ≠ top := by
  intro ht
  rw [← toList_text_eq_nil, toList_below, List.append_eq_nil_iff] at ht
  exact h (String.toList_inj.1 ht.2)

theorem isWithin_iff (h : dir ≠ top) :
    loc.isWithin dir = true ↔ dir.text.toList ++ ['/'] <+: loc.text.toList := by
  rw [isWithin]
  simp only [h, decide_false, Bool.false_or, Bool.and_eq_true, decide_eq_true_eq,
    List.isPrefixOf_iff_prefix]
  refine ⟨And.right, fun hp => ⟨?_, hp⟩⟩
  rintro rfl
  simp [top] at hp

theorem isWithin_top_iff : loc.isWithin top = true ↔ loc ≠ top := by
  simp [isWithin]

/-- A name without a slash is in no other place of its directory. -/
theorem not_below_isWithin_below {a b : String} (ha : '/' ∉ a.toList) (hb : b ≠ "") :
    (dir.below a).isWithin (dir.below b) = false := by
  rw [Bool.eq_false_iff, Ne, isWithin_iff (below_ne_top dir hb), toList_below, toList_below,
    List.append_assoc, List.prefix_append_right_inj]
  intro h
  exact ha (h.subset (by simp))

/-- What is around a name in a directory is around the directory, or is the directory. -/
theorem eq_or_isWithin_of_below {a : Location} (hname : '/' ∉ name.toList)
    (h : (dir.below name).isWithin a = true) : a = dir ∨ dir.isWithin a = true := by
  by_cases hdir : dir = top
  · by_cases ha : a = top
    · exact .inl (ha.trans hdir.symm)
    · rw [isWithin_iff ha, toList_below, stem, if_pos hdir, List.nil_append] at h
      exact absurd (h.subset (by simp)) hname
  · by_cases ha : a = top
    · exact .inr (ha ▸ isWithin_top_iff.2 hdir)
    · rw [isWithin_iff ha, toList_below, stem, if_neg hdir] at h
      rcases List.prefix_or_prefix_of_prefix h (List.prefix_append _ _) with hp | ⟨u, hu⟩
      · rcases List.prefix_concat_iff.1 hp with he | hp
        · exact .inl (ext_toList (List.append_cancel_right he))
        · exact .inr ((isWithin_iff ha).2 hp)
      · -- What is left of `a` behind the directory is in the name and ends in a slash.
        rcases List.eq_nil_or_concat u with rfl | ⟨v, c, rfl⟩
        · rw [List.append_nil] at hu
          exact .inl (ext_toList (List.append_cancel_right hu.symm))
        · rw [← hu, List.prefix_append_right_inj] at h
          have hc : c = '/' := by
            rw [List.concat_eq_append, ← List.append_assoc] at hu
            exact List.singleton_inj.1 (List.append_inj' hu rfl).2
          exact absurd (h.subset (by simp [hc])) hname

/-- What is in front of the last slash is the place above. -/
theorem above_eq_top_or (loc : Location) :
    loc.above = top ∨ ∃ y, loc.text.toList = loc.above.text.toList ++ '/' :: y := by
  have hsplit := List.takeWhile_append_dropWhile (p := (· ≠ '/')) (l := loc.text.toList.reverse)
  cases hd : loc.text.toList.reverse.dropWhile (· ≠ '/') with
  | nil => exact .inl (by rw [above, hd]; rfl)
  | cons c r =>
    right
    have hc : c = '/' := by
      have hhead := List.head?_dropWhile_not (· ≠ '/') loc.text.toList.reverse
      rw [hd] at hhead
      simpa using hhead
    subst hc
    rw [hd] at hsplit
    refine ⟨(loc.text.toList.reverse.takeWhile (· ≠ '/')).reverse, ?_⟩
    calc loc.text.toList = loc.text.toList.reverse.reverse := (List.reverse_reverse _).symm
      _ = (loc.text.toList.reverse.takeWhile (· ≠ '/') ++ '/' :: r).reverse := by rw [hsplit]
      _ = loc.above.text.toList ++ '/' ::
          (loc.text.toList.reverse.takeWhile (· ≠ '/')).reverse := by
        rw [above, hd]; simp

theorem above_eq_top_or_isWithin (loc : Location) : loc.above = top ∨ loc.isWithin loc.above := by
  by_cases ht : loc.above = top
  · exact .inl ht
  · right
    obtain ⟨y, hy⟩ := loc.above_eq_top_or.resolve_left ht
    exact (isWithin_iff ht).2 ⟨y, by rw [hy]; simp⟩

theorem isWithin_of_above {a : Location} (h : loc.above.isWithin a = true) :
    loc.isWithin a = true := by
  have ht : loc.above ≠ top := by
    intro ht
    rw [ht, isWithin] at h
    simp at h
  obtain ⟨y, hy⟩ := loc.above_eq_top_or.resolve_left ht
  by_cases ha : a = top
  · subst ha
    refine isWithin_top_iff.2 fun hl => ?_
    rw [toList_text_eq_nil.2 hl] at hy
    simp at hy
  · rw [isWithin_iff ha] at h ⊢
    exact h.trans ⟨'/' :: y, hy.symm⟩

end Location

/-! ### Entries -/

namespace FileTree

variable {t : FileTree} {loc l : Location} {e : Entry}

/-- A file is no directory. -/
theorem some_file_ne_directory (content : ByteArray) :
    some (Entry.file content) ≠ some .directory := by
  simp

theorem lookup_filter_key {α : Type u} {β : Type v} [BEq α] [LawfulBEq α] (p : α → Bool) (k : α)
    (l : List (α × β)) :
    (l.filter fun x => p x.1).lookup k = if p k then l.lookup k else none := by
  induction l with
  | nil => simp
  | cons x rest ih =>
    obtain ⟨k', v⟩ := x
    by_cases hk : k = k'
    · subst hk
      cases hp : p k with
      | true => simp [hp]
      | false => simp [hp, ih]
    · have hne : (k == k') = false := beq_false_of_ne hk
      cases hp : p k' with
      | true => simp [hp, List.lookup_cons, hne, ih]
      | false => simp [hp, List.lookup_cons, hne, ih]

@[simp] theorem entry?_top (t : FileTree) : t.entry? .top = some .directory := if_pos rfl

theorem entry?_of_ne_top (h : loc ≠ .top) : t.entry? loc = t.entries.lookup loc := if_neg h

theorem entry?_put (h : loc ≠ .top) (l : Location) :
    FileTree.entry? (t.put loc e) l = if l = loc then some e else t.entry? l := by
  by_cases hl : l = loc
  · subst hl
    rw [entry?_of_ne_top h, put, if_pos rfl]
    simp
  · rw [if_neg hl]
    by_cases ht : l = .top
    · rw [ht, entry?_top, entry?_top]
    · rw [entry?_of_ne_top ht, entry?_of_ne_top ht, put, List.lookup_cons, beq_false_of_ne hl,
        lookup_filter_key fun x => decide (x ≠ loc)]
      simp [hl]

theorem entry?_remove (t : FileTree) (loc l : Location) :
    FileTree.entry? (t.remove loc) l =
      if l ≠ .top ∧ (l = loc ∨ l.isWithin loc = true) then none else t.entry? l := by
  by_cases ht : l = .top
  · simp [ht]
  · rw [entry?_of_ne_top ht, entry?_of_ne_top ht, remove,
      lookup_filter_key fun x => decide (x ≠ loc) && !x.isWithin loc]
    by_cases hl : l = loc
    · simp [hl, hl ▸ ht]
    · by_cases hw : l.isWithin loc = true
      · simp [hl, ht, hw]
      · simp [hl, hw]

/-- Putting the same entry again changes nothing. -/
theorem put_put_self (t : FileTree) (loc : Location) (e : Entry) :
    (t.put loc e).put loc e = t.put loc e := by
  simp [put, List.filter_filter]

end FileTree

end StaticSite
