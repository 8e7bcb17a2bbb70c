import StaticSite.Proofs.FileTree.Directory

/-!
# Making a directory

A directory is made together with the directories above it that are missing. The work goes down the
steps of the path and may fail at any of them, with what was made before in place.

## The way to a directory

`Path.way` lists the places that the steps of a path lead through, the directory itself the last of
them. Directories are made in these places only, and only where there was nothing, however far the
work comes: `FileTree.entry?_makeDirectories`. So a directory that is there already stays as it is,
and what was open before is open afterwards.

A path without `..` only goes down. The places on its way are then the directory and those that it
is in.

## Main results

* `FileTree.entry?_makeDirectories` — what is made, and that nothing else is touched
* `FileTree.opens_makeDirectories` — a directory that was made is open
* `FileTree.Opens.makeDirectories` — an open directory is left as it is
* `FileTree.Opens.eq_or_isWithin_of_mem_way` — the places on the way
-/

namespace StaticSite

/-! ### The way -/

namespace Location

variable {loc dir a b c : Location} {name : String}

/-- The places that steps down from a location lead to, one after another. -/
def along (here : Location) : List String → List Location
  | [] => []
  | step :: rest =>
    if step = "." then here.along rest
    else if step = ".." then here.above.along rest
    else here.below step :: (here.below step).along rest

theorem ne_top_of_isWithin (h : loc.isWithin dir = true) : loc ≠ top := by
  rw [isWithin, Bool.and_eq_true, decide_eq_true_eq] at h
  exact h.1

theorem below_isWithin (dir : Location) (h : name ≠ "") : (dir.below name).isWithin dir = true := by
  by_cases hdir : dir = top
  · rw [hdir, isWithin_top_iff]
    exact below_ne_top _ h
  · rw [isWithin_iff hdir, toList_below, stem, if_neg hdir]
    exact List.prefix_append _ _

theorem isWithin_trans (hab : a.isWithin b = true) (hbc : b.isWithin c = true) :
    a.isWithin c = true := by
  by_cases hc : c = top
  · rw [hc, isWithin_top_iff]
    exact ne_top_of_isWithin hab
  · rw [isWithin_iff (ne_top_of_isWithin hbc)] at hab
    rw [isWithin_iff hc] at hbc ⊢
    exact hbc.trans ((List.prefix_append _ _).trans hab)

end Location

namespace Path

/-- The places that a path leads through from the top, and the one that it leads to. -/
def way (p : Path) : List Location :=
  Location.top.along p.steps

theorem ne_empty_of_mem_steps {p : Path} {step : String} (h : step ∈ p.steps) : step ≠ "" := by
  rw [steps_eq, List.mem_append] at h
  rcases h with h | h
  · exact of_decide_eq_true (List.mem_filter.1 (List.mem_filter.1 h).1).2
  · split at h
    · rw [List.mem_singleton.1 h]
      decide
    · exact absurd h List.not_mem_nil

end Path

namespace FileTree

variable {t t' : FileTree} {dir : Path} {here loc l d : Location}

/-! ### What is made -/

theorem entry?_put_of_none (hloc : t.entry? loc = none) (e : Entry) (l : Location) :
    FileTree.entry? (t.put loc e) l = if l = loc then some e else t.entry? l := by
  refine entry?_put ?_ l
  rintro rfl
  rw [entry?_top] at hloc
  cases hloc

/-- **What the making of directories does** to a place: nothing, unless the place is on the way and
there was nothing. -/
theorem entry?_makeDirectoriesFrom (t : FileTree) (made : Bool) (here : Location)
    (steps : List String) (l : Location) :
    FileTree.entry? (t.makeDirectoriesFrom made here steps).1 l = t.entry? l ∨
      t.entry? l = none ∧ l ∈ here.along steps ∧
        FileTree.entry? (t.makeDirectoriesFrom made here steps).1 l = some .directory := by
  induction steps generalizing t made here with
  | nil => exact .inl rfl
  | cons step rest ih =>
    rw [makeDirectoriesFrom, Location.along]
    by_cases h₁ : step = "."
    · rw [if_pos h₁, if_pos h₁]
      exact ih t made here
    by_cases h₂ : step = ".."
    · rw [if_neg h₁, if_neg h₁, if_pos h₂, if_pos h₂]
      exact ih t made here.above
    rw [if_neg h₁, if_neg h₁, if_neg h₂, if_neg h₂]
    split
    · exact .inl rfl
    simp only
    split
    · exact (ih t made (here.below step)).imp_right fun ⟨hnone, hway, hdir⟩ =>
        ⟨hnone, List.mem_cons_of_mem _ hway, hdir⟩
    · exact .inl rfl
    next hnone =>
      split
      · exact .inl rfl
      -- The rest of the way is walked in the tree that has the new directory.
      have hput := entry?_put_of_none hnone .directory l
      by_cases hl : l = here.below step
      · rw [if_pos hl] at hput
        rcases ih (t.put (here.below step) .directory) true (here.below step) with hsame | ⟨hno, -⟩
        · exact .inr ⟨hl ▸ hnone, hl ▸ List.mem_cons_self, hsame.trans hput⟩
        · rw [hput] at hno
          cases hno
      · rw [if_neg hl] at hput
        rw [← hput]
        exact (ih _ true (here.below step)).imp_right fun ⟨hno, hway, hdir⟩ =>
          ⟨hno, List.mem_cons_of_mem _ hway, hdir⟩

/-- Directories stay where they are while others are made. -/
theorem makeDirectoriesFrom_keeps (made : Bool) (here : Location) (steps : List String)
    (h : t.entry? l = some .directory) :
    FileTree.entry? (t.makeDirectoriesFrom made here steps).1 l = some .directory := by
  rcases t.entry?_makeDirectoriesFrom made here steps l with hsame | ⟨-, -, hdir⟩
  · exact hsame.trans h
  · exact hdir

/-- **What the making of a directory does** to a place of the tree, whether it succeeds or not. -/
theorem entry?_makeDirectories (t : FileTree) (dir : Path) (l : Location) :
    FileTree.entry? (t.makeDirectories dir).1 l = t.entry? l ∨
      t.entry? l = none ∧ l ∈ dir.way ∧
        FileTree.entry? (t.makeDirectories dir).1 l = some .directory := by
  rw [makeDirectories]
  split
  · exact .inl rfl
  · exact t.entry?_makeDirectoriesFrom false .top dir.steps l

/-! ### A directory that was made -/

/-- Steps along which the directories could be made can be entered afterwards. -/
theorem enter?_makeDirectoriesFrom {made : Bool} {steps : List String}
    (h : t.makeDirectoriesFrom made here steps = (t', .ok ())) :
    ∃ d, t'.enter? here steps = some d := by
  induction steps generalizing t made here with
  | nil => exact ⟨here, rfl⟩
  | cons step rest ih =>
    rw [makeDirectoriesFrom] at h
    by_cases h₁ : step = "."
    · rw [if_pos h₁] at h
      obtain ⟨d, hd⟩ := ih h
      exact ⟨d, enter?_cons_eq_some_iff.2 (.inl ⟨h₁, hd⟩)⟩
    by_cases h₂ : step = ".."
    · rw [if_neg h₁, if_pos h₂] at h
      obtain ⟨d, hd⟩ := ih h
      exact ⟨d, enter?_cons_eq_some_iff.2 (.inr (.inl ⟨h₂, hd⟩))⟩
    by_cases h₃ : 255 < step.utf8ByteSize
    · rw [if_neg h₁, if_neg h₂, if_pos h₃] at h
      cases h
    rw [if_neg h₁, if_neg h₂, if_neg h₃] at h
    -- A directory that is there or that was made on the way is there in the end.
    suffices hnext : (∃ d, t'.enter? (here.below step) rest = some d) ∧
        t'.entry? (here.below step) = some .directory by
      obtain ⟨⟨d, hd⟩, hdir⟩ := hnext
      exact ⟨d, enter?_cons_eq_some_iff.2 (.inr (.inr ⟨h₁, h₂, Nat.not_lt.1 h₃, hdir, hd⟩))⟩
    simp only at h
    split at h
    next hdir =>
      have hkeep := makeDirectoriesFrom_keeps made (here.below step) rest hdir
      rw [h] at hkeep
      exact ⟨ih h, hkeep⟩
    next => cases h
    next hnone =>
      split at h
      · cases h
      · have hput := entry?_put_of_none hnone .directory (here.below step)
        rw [if_pos rfl] at hput
        have hkeep := makeDirectoriesFrom_keeps true (here.below step) rest hput
        rw [h] at hkeep
        exact ⟨ih h, hkeep⟩

/-- Where the way is there already, nothing is made. -/
theorem makeDirectoriesFrom_of_enter? {made : Bool} {steps : List String}
    (h : t.enter? here steps = some loc) : t.makeDirectoriesFrom made here steps = (t, .ok ()) := by
  induction steps generalizing here with
  | nil => rfl
  | cons step rest ih =>
    rw [makeDirectoriesFrom]
    rcases enter?_cons_eq_some_iff.1 h with ⟨h₁, h⟩ | ⟨h₂, h⟩ | ⟨h₁, h₂, hlen, hd, h⟩
    · rw [if_pos h₁, ih h]
    · rw [if_neg (by rw [h₂]; decide), if_pos h₂, ih h]
    · rw [if_neg h₁, if_neg h₂, if_neg (Nat.not_lt.2 hlen)]
      simp only [hd]
      exact ih h

/-- **A directory that was made is open.** -/
theorem opens_makeDirectories (h : (t.makeDirectories dir).2 = .ok ()) :
    ∃ d, (t.makeDirectories dir).1.Opens dir d := by
  rw [makeDirectories] at h ⊢
  split at h
  · cases h
  next hf =>
    have hmade : t.makeDirectoriesFrom false .top dir.steps =
        ((t.makeDirectoriesFrom false .top dir.steps).1, .ok ()) := Prod.ext rfl h
    obtain ⟨d, hd⟩ := enter?_makeDirectoriesFrom hmade
    exact ⟨d, hf, hd⟩

/-- **An open directory stays as it is** when it is made again. -/
theorem Opens.makeDirectories (h : t.Opens dir d) : t.makeDirectories dir = (t, .ok ()) := by
  rw [FileTree.makeDirectories, h.fault]
  exact makeDirectoriesFrom_of_enter? h.enters

/-! ### The way to an open directory -/

theorem enter?_unique {steps : List String} {d' : Location} (h : t.enter? here steps = some d)
    (h' : t'.enter? here steps = some d') : d = d' := by
  induction steps generalizing here with
  | nil => exact (Option.some.inj h).symm.trans (Option.some.inj h')
  | cons step rest ih =>
    rw [enter?] at h h'
    by_cases h₁ : step = "."
    · rw [if_pos h₁] at h h'
      exact ih h h'
    by_cases h₂ : step = ".."
    · rw [if_neg h₁, if_pos h₂] at h h'
      exact ih h h'
    by_cases h₃ : 255 < step.utf8ByteSize
    · rw [if_neg h₁, if_neg h₂, if_pos h₃] at h
      cases h
    rw [if_neg h₁, if_neg h₂, if_neg h₃] at h h'
    split at h
    · split at h'
      · exact ih h h'
      · cases h'
    · cases h

/-- Where a directory is does not depend on what else there is. -/
theorem Opens.unique {d' : Location} (h : t.Opens dir d) (h' : t'.Opens dir d') : d = d' :=
  enter?_unique h.enters h'.enters

/-- Steps that do not go up lead further down, or nowhere. -/
theorem eq_or_isWithin_of_enter? {steps : List String} (hsteps : ∀ s ∈ steps, s ≠ "" ∧ s ≠ "..")
    (h : t.enter? here steps = some d) : d = here ∨ d.isWithin here = true := by
  induction steps generalizing here with
  | nil => exact .inl (Option.some.inj h).symm
  | cons step rest ih =>
    obtain ⟨⟨hempty, habove⟩, hrest⟩ := List.forall_mem_cons.1 hsteps
    rcases enter?_cons_eq_some_iff.1 h with ⟨-, h⟩ | ⟨h₂, -⟩ | ⟨-, -, -, -, h⟩
    · exact ih hrest h
    · exact absurd h₂ habove
    · have hbelow := here.below_isWithin hempty
      rcases ih hrest h with rfl | hwithin
      · exact .inr hbelow
      · exact .inr (Location.isWithin_trans hwithin hbelow)

theorem eq_or_isWithin_of_mem_along {steps : List String}
    (hsteps : ∀ s ∈ steps, s ≠ "" ∧ s ≠ "..") (h : t.enter? here steps = some d)
    (hl : l ∈ here.along steps) : d = l ∨ d.isWithin l = true := by
  induction steps generalizing here with
  | nil => exact absurd hl List.not_mem_nil
  | cons step rest ih =>
    obtain ⟨⟨-, habove⟩, hrest⟩ := List.forall_mem_cons.1 hsteps
    rw [Location.along] at hl
    rcases enter?_cons_eq_some_iff.1 h with ⟨h₁, h⟩ | ⟨h₂, -⟩ | ⟨h₁, h₂, -, -, h⟩
    · rw [if_pos h₁] at hl
      exact ih hrest h hl
    · exact absurd h₂ habove
    · rw [if_neg h₁, if_neg h₂] at hl
      rcases List.mem_cons.1 hl with rfl | hl
      · exact eq_or_isWithin_of_enter? hrest h
      · exact ih hrest h hl

/-- **On the way of a path that only goes down** are the directory and those that it is in. -/
theorem Opens.eq_or_isWithin_of_mem_way (h : t.Opens dir d) (hdown : ".." ∉ dir.steps)
    (hl : l ∈ dir.way) : d = l ∨ d.isWithin l = true := by
  refine eq_or_isWithin_of_mem_along (fun s hs => ⟨Path.ne_empty_of_mem_steps hs, ?_⟩) h.enters hl
  rintro rfl
  exact hdown hs

end FileTree

end StaticSite
