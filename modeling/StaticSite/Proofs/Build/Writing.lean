import StaticSite.Build
import StaticSite.Proofs.Manifest

/-!
# Writing pages, one file at a time

Pages are written in the order of the page list, and every step reads and changes the tree and the
manifest as a whole. Seen from one file, only the pages with its slug matter: a file has a
`FileState`, and each of these pages settles it.

## The contract

Slugs without a slash name files of the output directory, and for them the view is exact:
`fileState_writePages` says what a completed run of `writePages` does to each file. With other slugs
a page may be written anywhere, but always to a place that ends in `.html` and is no directory. This
much, `KeepsOthers`, holds of every run, of those that stop halfway as well, and is enough to see
that the output directory stays open and the manifest stays as it is.

## Main results

* `FileState.held_foldl_settle` — what a file holds after the pages of its slug
* `Build.keepsOthers_writePages` — what no run of `writePages` touches
* `Build.fileState_writePages`, `Build.entry?_writePages` — what a completed run does, by file
* `Build.exists_writePages` — when a run is completed
* `Build.statuses_writePages` — what a run says about its pages
-/

namespace StaticSite

/-- A slug without a slash, so that its file is one of the output directory. -/
def FlatSlug (slug : String) : Prop := '/' ∉ slug.toList

instance (slug : String) : Decidable (FlatSlug slug) :=
  inferInstanceAs (Decidable (_ ∉ _))

theorem FlatSlug.isFileName {slug : String} (h : FlatSlug slug) : IsFileName (pageFile slug) :=
  isFileName_pageFile h

namespace Build

/-- No two of the texts have the same digest. -/
def NoCollision (digest : String → String) (texts : List String) : Prop :=
  ∀ a ∈ texts, ∀ b ∈ texts, digest a = digest b → a = b

theorem NoCollision.mono {digest : String → String} {texts texts' : List String}
    (h : NoCollision digest texts') (hsub : ∀ a ∈ texts, a ∈ texts') : NoCollision digest texts :=
  fun a ha b hb => h a (hsub a ha) b (hsub b hb)

/-! ### The view from one file -/

/-- What there is about one file while pages are written. -/
structure FileState where
  /-- The digest that the manifest has for the file. -/
  noted : Option String
  /-- What is in the place of the file. -/
  held : Option Entry

namespace FileState

/-- Whether the file is left alone by a page with the given digest. -/
def Fresh (s : FileState) (d : String) : Prop :=
  s.noted = some d ∧ s.held.isSome = true

instance (s : FileState) (d : String) : Decidable (s.Fresh d) :=
  inferInstanceAs (Decidable (_ ∧ _))

/-- What a page of the file makes of it. -/
def settle (digest : String → String) (s : FileState) (html : String) : FileState where
  noted := some (digest html)
  held := if s.Fresh (digest html) then s.held else some (.file html.toUTF8)

variable {digest : String → String} {s : FileState} {html : String} {htmls : List String}

theorem settle_of_fresh (h : s.Fresh (digest html)) : s.settle digest html = s := by
  rw [settle, if_pos h, ← h.1]

theorem isSome_held_settle (s : FileState) (html : String) :
    (s.settle digest html).held.isSome = true := by
  rw [settle]
  split
  next h => exact h.2
  · rfl

theorem noted_foldl_settle (htmls : List String) (s : FileState) :
    (htmls.foldl (settle digest) s).noted = (htmls.getLast?.map digest).or s.noted := by
  induction htmls generalizing s with
  | nil => rfl
  | cons x rest ih =>
    rw [List.foldl_cons, ih, List.getLast?_cons]
    cases rest.getLast? <;> rfl

variable {texts : List String} {known : Option String}

theorem fresh_iff (hdigest : NoCollision digest texts) (hknown : ∀ g, known = some g → g ∈ texts)
    (hhtml : html ∈ texts) (hnoted : s.noted = known.map digest) :
    s.Fresh (digest html) ↔ known = some html ∧ s.held.isSome = true := by
  rw [Fresh, hnoted]
  refine and_congr_left fun _ => ⟨fun h => ?_, ?_⟩
  · obtain ⟨g, hg, hd⟩ := Option.map_eq_some_iff.1 h
    rw [hg, hdigest g (hknown g hg) html hhtml hd]
  · rintro rfl
    rfl

/-- **What a file holds after its pages.** It is left alone only when every page of its slug has the
content that the manifest knows it by; then it holds what was there before, whatever that is. -/
theorem held_foldl_settle (hdigest : NoCollision digest texts)
    (hknown : ∀ g, known = some g → g ∈ texts) (hhtmls : ∀ x ∈ htmls, x ∈ texts)
    (hnoted : s.noted = known.map digest) (hlast : htmls.getLast? = some html) :
    (htmls.foldl (settle digest) s).held =
      if known = some html ∧ s.held.isSome = true ∧ ∀ x ∈ htmls, x = html then s.held
      else some (.file html.toUTF8) := by
  induction htmls generalizing s known with
  | nil => cases hlast
  | cons x rest ih =>
    have hx : x ∈ texts := hhtmls x List.mem_cons_self
    have hheld : (s.settle digest x).held =
        if known = some x ∧ s.held.isSome = true then s.held else some (.file x.toUTF8) := by
      simp only [settle, fresh_iff hdigest hknown hx hnoted]
    rw [List.foldl_cons]
    cases rest with
    | nil =>
      obtain rfl : x = html := Option.some.inj hlast
      rw [List.foldl_nil, hheld]
      simp only [List.mem_singleton, forall_eq, and_true]
    | cons y rest =>
      rw [List.getLast?_cons_cons] at hlast
      -- After its first page the file is known by that page, and something is in its place.
      rw [@ih _ (some x) (fun g hg => Option.some.inj hg ▸ hx)
        (fun z hz => hhtmls z (List.mem_cons_of_mem _ hz)) rfl hlast, isSome_held_settle, hheld]
      by_cases hall : ∀ z ∈ x :: y :: rest, z = html
      · obtain rfl : x = html := hall x List.mem_cons_self
        have hall' : ∀ z ∈ y :: rest, z = x := fun z hz => hall z (List.mem_cons_of_mem _ hz)
        rw [if_pos ⟨rfl, rfl, hall'⟩]
        simp only [eq_true hall, and_true]
      · have hall' : ¬(some x = some html ∧ true = true ∧ ∀ z ∈ y :: rest, z = html) := by
          rintro ⟨hx', -, hrest⟩
          refine hall fun z hz => ?_
          rcases List.mem_cons.1 hz with rfl | hz
          · exact Option.some.inj hx'
          · exact hrest z hz
        rw [if_neg hall', if_neg fun h => hall h.2.2]

end FileState

variable {digest : String → String} {dir : Path} {d : Location} {t t' : FileTree}
  {r : RenderedPage} {rs : List RenderedPage} {p p' : Progress} {slug : String}

/-- The contents of the pages with a slug, in page order. -/
def htmlsOf (rs : List RenderedPage) (slug : String) : List String :=
  (rs.filter fun r => r.page.slug = slug).map fun r => r.content.html

theorem htmlsOf_cons_self (r : RenderedPage) (rs : List RenderedPage) :
    htmlsOf (r :: rs) r.page.slug = r.content.html :: htmlsOf rs r.page.slug := by
  simp [htmlsOf]

theorem htmlsOf_cons_of_ne (h : r.page.slug ≠ slug) (rs : List RenderedPage) :
    htmlsOf (r :: rs) slug = htmlsOf rs slug := by
  simp [htmlsOf, h]

/-- With distinct slugs, the content of a page is the only one for its file. -/
theorem htmlsOf_of_nodup (hnodup : (rs.map fun r => r.page.slug).Nodup) (hr : r ∈ rs) :
    htmlsOf rs r.page.slug = [r.content.html] := by
  induction rs with
  | nil => cases hr
  | cons r' rest ih =>
    rw [List.map_cons, List.nodup_cons] at hnodup
    rcases List.mem_cons.1 hr with rfl | hr
    · have hrest : htmlsOf rest r.page.slug = [] := by
        rw [htmlsOf, List.map_eq_nil_iff, List.filter_eq_nil_iff]
        intro q hq hslug
        exact hnodup.1 (of_decide_eq_true hslug ▸ List.mem_map_of_mem hq)
      rw [htmlsOf_cons_self, hrest]
    · have hne : r'.page.slug ≠ r.page.slug := fun he =>
        hnodup.1 (he ▸ List.mem_map_of_mem hr)
      rw [htmlsOf_cons_of_ne hne, ih hnodup.2 hr]

/-- The file of a slug at a point of the work. -/
def Progress.fileState (dir : Path) (p : Progress) (slug : String) : FileState where
  noted := p.manifest.entries.get? (pageFile slug)
  held := p.tree.find? (dir.join (pageFile slug))

theorem isFresh_iff (dir : Path) (p : Progress) (slug dg : String) :
    p.manifest.isFresh (pageFile slug) dg dir p.tree = true ↔ (p.fileState dir slug).Fresh dg := by
  rw [Manifest.isFresh, Bool.and_eq_true, beq_iff_eq]
  exact Iff.rfl

/-! ### What one page does -/

/-- A page is left alone or written, and noted in any case. -/
theorem writePage_eq_ok_iff :
    writePage digest dir r p = .ok p' ↔
      ((p.fileState dir r.page.slug).Fresh (digest r.content.html) ∧
        p' = {
          tree := p.tree
          manifest := p.manifest.insert (pageFile r.page.slug) (digest r.content.html)
          statuses := p.statuses ++ [.unchanged]
          events := p.events ++ [.pageUnchanged r.page.slug] }) ∨
      (¬(p.fileState dir r.page.slug).Fresh (digest r.content.html) ∧
        ∃ tree, p.tree.writeText (dir.join (pageFile r.page.slug)) r.content.html = .ok tree ∧
          p' = {
            tree
            manifest := p.manifest.insert (pageFile r.page.slug) (digest r.content.html)
            statuses := p.statuses ++ [.written]
            events := p.events ++ [.pageWritten r.page.slug (pageFile r.page.slug)
              r.content.html.utf8ByteSize] }) := by
  simp only [writePage, isFresh_iff]
  by_cases hf : (p.fileState dir r.page.slug).Fresh (digest r.content.html)
  · simp [hf, eq_comm]
  · rw [if_neg hf]
    cases p.tree.writeText (dir.join (pageFile r.page.slug)) r.content.html with
    | error e => simp [hf]
    | ok tree => simp [hf, eq_comm]

theorem manifest_writePage (h : writePage digest dir r p = .ok p') :
    p'.manifest = p.manifest.insert (pageFile r.page.slug) (digest r.content.html) := by
  rcases writePage_eq_ok_iff.1 h with ⟨-, rfl⟩ | ⟨-, tree, -, rfl⟩ <;> rfl

/-- A page whose path leads nowhere is never fresh, and cannot be written. -/
theorem writePage_of_locate_error {e : FileError}
    (h : p.tree.locate (dir.join (pageFile r.page.slug)) = .error e) :
    writePage digest dir r p = .error e := by
  have hfresh : ¬(p.fileState dir r.page.slug).Fresh (digest r.content.html) := by
    rintro ⟨-, hheld⟩
    rw [Progress.fileState, FileTree.find?, h] at hheld
    cases hheld
  simp only [writePage, isFresh_iff, if_neg hfresh, FileTree.writeText, FileTree.write, h]

/-- Pages are written one list after another, unless the first list is not completed. -/
theorem writePages_append (before after : List RenderedPage) (p : Progress) :
    writePages digest dir (before ++ after) p =
      match writePages digest dir before p with
      | (p', .ok ()) => writePages digest dir after p'
      | (p', .error e) => (p', .error e) := by
  induction before generalizing p with
  | nil => rfl
  | cons r rest ih =>
    rw [List.cons_append, writePages, writePages]
    cases writePage digest dir r p with
    | error e => rfl
    | ok p' => exact ih p'

/-! ### What no page touches -/

/-- Directories are kept, and so is every place that does not end as the file of a page does. -/
structure KeepsOthers (t t' : FileTree) : Prop where
  directories : ∀ l, t.entry? l = some .directory → t'.entry? l = some .directory
  others : ∀ l : Location, ¬ ".html".toList <:+ l.text.toList → t'.entry? l = t.entry? l

namespace KeepsOthers

theorem refl (t : FileTree) : KeepsOthers t t :=
  ⟨fun _ h => h, fun _ _ => rfl⟩

theorem trans {t'' : FileTree} (h : KeepsOthers t t') (h' : KeepsOthers t' t'') :
    KeepsOthers t t'' :=
  ⟨fun l hl => h'.directories l (h.directories l hl),
    fun l hl => (h'.others l hl).trans (h.others l hl)⟩

theorem opens (h : KeepsOthers t t') (ho : t.Opens dir d) : t'.Opens dir d :=
  ho.mono h.directories

/-- The manifest is not the file of a page, so it stays as it is. -/
theorem find?_manifest (h : KeepsOthers t t') (ho : t.Opens dir d) :
    t'.find? (dir.join manifestFile) = t.find? (dir.join manifestFile) := by
  have hend : ¬ ".html".toList <:+ (d.below manifestFile).text.toList := by
    rw [Location.toList_below]
    intro hs
    have hs' := List.suffix_of_suffix_length_le hs (List.suffix_append _ manifestFile.toList)
      (by decide)
    exact absurd hs' (by decide)
  rw [(h.opens ho).find?_join isFileName_manifestFile, ho.find?_join isFileName_manifestFile,
    h.others _ hend]

end KeepsOthers

theorem keepsOthers_writePage (h : writePage digest dir r p = .ok p') :
    KeepsOthers p.tree p'.tree := by
  rcases writePage_eq_ok_iff.1 h with ⟨-, rfl⟩ | ⟨-, tree, hw, rfl⟩
  · exact .refl _
  · obtain ⟨loc, hloc, hfree, rfl⟩ := FileTree.writeText_eq_ok_iff.1 hw
    have hne : loc ≠ .top := fun ht => hfree (by rw [ht, FileTree.entry?_top])
    have hfile : ".html".toList <:+ (dir.join (pageFile r.page.slug)).text.toList := by
      refine List.IsSuffix.trans ?_ (dir.suffix_text_join (pageFile r.page.slug))
      rw [toList_pageFile]
      exact List.suffix_append _ _
    have hend : ".html".toList <:+ loc.text.toList :=
      FileTree.suffix_of_locate (by decide) (by decide) hfile hloc
    refine ⟨fun l hl => ?_, fun l hl => ?_⟩
    · have hll : l ≠ loc := by
        rintro rfl
        exact hfree hl
      rw [FileTree.entry?_put hne, if_neg hll, hl]
    · have hll : l ≠ loc := by
        rintro rfl
        exact hl hend
      rw [FileTree.entry?_put hne, if_neg hll]

/-- **What no run touches**, however far it comes and whatever the slugs are. -/
theorem keepsOthers_writePages {result : Except FileError Unit}
    (h : writePages digest dir rs p = (p', result)) : KeepsOthers p.tree p'.tree := by
  induction rs generalizing p with
  | nil =>
    cases h
    exact .refl _
  | cons r rest ih =>
    rw [writePages] at h
    split at h
    · cases h
      exact .refl _
    next p₁ hp₁ => exact (keepsOthers_writePage hp₁).trans (ih h)

/-! ### What a completed run does -/

/-- A page whose slug is flat is admitted to the directory, and its file is settled there. -/
theorem writePage_cases (ho : p.tree.Opens dir d) (hr : FlatSlug r.page.slug)
    (h : writePage digest dir r p = .ok p') :
    dir.Admits (pageFile r.page.slug) ∧
      ((p.fileState dir r.page.slug).Fresh (digest r.content.html) ∧ p'.tree = p.tree ∨
        ¬(p.fileState dir r.page.slug).Fresh (digest r.content.html) ∧
          p.tree.find? (dir.join (pageFile r.page.slug)) ≠ some .directory ∧
          p'.tree = p.tree.put (d.below (pageFile r.page.slug)) (.file r.content.html.toUTF8)) := by
  rcases writePage_eq_ok_iff.1 h with ⟨hf, rfl⟩ | ⟨hf, tree, hw, rfl⟩
  · obtain ⟨e, he⟩ := Option.isSome_iff_exists.1 hf.2
    exact ⟨ho.admits_of_find? hr.isFileName he, .inl ⟨hf, rfl⟩⟩
  · obtain ⟨ha, hfree, rfl⟩ := (ho.writeText_iff hr.isFileName).1 hw
    exact ⟨ha, .inr ⟨hf, hfree, rfl⟩⟩

theorem entry?_writePage (ho : p.tree.Opens dir d) (hr : FlatSlug r.page.slug)
    (h : writePage digest dir r p = .ok p') {l : Location}
    (hl : l ≠ d.below (pageFile r.page.slug)) : p'.tree.entry? l = p.tree.entry? l := by
  obtain ⟨-, ⟨-, ht⟩ | ⟨-, -, ht⟩⟩ := writePage_cases ho hr h
  · rw [ht]
  · rw [ht, FileTree.entry?_put (Location.below_ne_top d hr.isFileName.ne_empty), if_neg hl]

theorem fileState_writePage (ho : p.tree.Opens dir d) (hr : FlatSlug r.page.slug)
    (hslug : FlatSlug slug) (h : writePage digest dir r p = .ok p') :
    p'.fileState dir slug =
      if slug = r.page.slug then (p.fileState dir slug).settle digest r.content.html
      else p.fileState dir slug := by
  have hnoted : p'.manifest.entries.get? (pageFile slug) =
      if slug = r.page.slug then some (digest r.content.html)
      else p.manifest.entries.get? (pageFile slug) := by
    rw [manifest_writePage h, Manifest.insert, SortedMap.get?_insert]
    by_cases hs : slug = r.page.slug
    · rw [if_pos hs, if_pos (by rw [hs])]
    · rw [if_neg hs, if_neg fun he => hs (pageFile_injective he)]
  have hheld : p'.tree.find? (dir.join (pageFile slug)) =
      if slug = r.page.slug then
        ((p.fileState dir slug).settle digest r.content.html).held
      else p.tree.find? (dir.join (pageFile slug)) := by
    obtain ⟨ha, ⟨hf, ht⟩ | ⟨hf, hfree, ht⟩⟩ := writePage_cases ho hr h
    · rw [ht]
      split
      next hs =>
        subst hs
        rw [FileState.settle_of_fresh hf]
        rfl
      next => rfl
    · rw [ht, ho.find?_put_join hslug.isFileName hr.isFileName ha hfree]
      by_cases hs : slug = r.page.slug
      · subst hs
        rw [if_pos rfl, if_pos rfl, FileState.settle, if_neg hf]
      · rw [if_neg fun he => hs (pageFile_injective he), if_neg hs]
  rw [Progress.fileState, hnoted, hheld]
  split <;> rfl

/-- The directory stays open. -/
theorem opens_writePage (ho : p.tree.Opens dir d) (h : writePage digest dir r p = .ok p') :
    p'.tree.Opens dir d :=
  (keepsOthers_writePage h).opens ho

/-- **What a completed run does to a file**: the pages with its slug settle it one after another. -/
theorem fileState_writePages (ho : p.tree.Opens dir d) (hrs : ∀ r ∈ rs, FlatSlug r.page.slug)
    (hslug : FlatSlug slug) (h : writePages digest dir rs p = (p', .ok ())) :
    p'.fileState dir slug =
      (htmlsOf rs slug).foldl (FileState.settle digest) (p.fileState dir slug) := by
  induction rs generalizing p with
  | nil =>
    cases h
    rfl
  | cons r rest ih =>
    rw [writePages] at h
    split at h
    · cases h
    next p₁ hp₁ =>
      rw [ih (opens_writePage ho hp₁) (fun r' hr' => hrs r' (List.mem_cons_of_mem _ hr')) h,
        fileState_writePage ho (hrs r List.mem_cons_self) hslug hp₁]
      by_cases hs : slug = r.page.slug
      · subst hs
        rw [if_pos rfl, htmlsOf_cons_self, List.foldl_cons]
      · rw [if_neg hs, htmlsOf_cons_of_ne (Ne.symm hs)]

/-- A completed run leaves everything alone that is no page of it, and its pages are admitted. -/
theorem entry?_writePages (ho : p.tree.Opens dir d) (hrs : ∀ r ∈ rs, FlatSlug r.page.slug)
    (h : writePages digest dir rs p = (p', .ok ())) :
    (∀ r ∈ rs, dir.Admits (pageFile r.page.slug)) ∧
      ∀ l, (∀ r ∈ rs, l ≠ d.below (pageFile r.page.slug)) →
        p'.tree.entry? l = p.tree.entry? l := by
  induction rs generalizing p with
  | nil =>
    cases h
    exact ⟨List.forall_mem_nil _, fun _ _ => rfl⟩
  | cons r rest ih =>
    rw [writePages] at h
    split at h
    · cases h
    next p₁ hp₁ =>
      have hr : FlatSlug r.page.slug := hrs r List.mem_cons_self
      obtain ⟨hadmits, hentry⟩ := ih (opens_writePage ho hp₁)
        (fun r' hr' => hrs r' (List.mem_cons_of_mem _ hr')) h
      refine ⟨fun r' hr' => ?_, fun l hl => ?_⟩
      · rcases List.mem_cons.1 hr' with rfl | hr'
        · exact (writePage_cases ho hr hp₁).1
        · exact hadmits r' hr'
      · rw [hentry l fun r' hr' => hl r' (List.mem_cons_of_mem _ hr'),
          entry?_writePage ho hr hp₁ (hl r List.mem_cons_self)]

/-- A page can be written where its file is admitted and no directory is in its place. -/
theorem exists_writePage (ho : p.tree.Opens dir d) (hr : FlatSlug r.page.slug)
    (ha : dir.Admits (pageFile r.page.slug))
    (hfree : p.tree.find? (dir.join (pageFile r.page.slug)) ≠ some .directory) :
    ∃ p', writePage digest dir r p = .ok p' := by
  by_cases hf : (p.fileState dir r.page.slug).Fresh (digest r.content.html)
  · exact ⟨_, writePage_eq_ok_iff.2 (.inl ⟨hf, rfl⟩)⟩
  · exact ⟨_, writePage_eq_ok_iff.2 (.inr ⟨hf, _,
      (ho.writeText_iff hr.isFileName).2 ⟨ha, hfree, rfl⟩, rfl⟩)⟩

theorem find?_writePage_ne_directory (ho : p.tree.Opens dir d) (hr : FlatSlug r.page.slug)
    (hslug : FlatSlug slug) (h : writePage digest dir r p = .ok p')
    (hfree : p.tree.find? (dir.join (pageFile slug)) ≠ some .directory) :
    p'.tree.find? (dir.join (pageFile slug)) ≠ some .directory := by
  have hstate := congrArg FileState.held (fileState_writePage ho hr hslug h)
  have hheld : ∀ html, ((p.fileState dir slug).settle digest html).held ≠ some .directory := by
    intro html
    rw [FileState.settle]
    simp only
    split
    · exact hfree
    · simp
  intro hd
  rw [Progress.fileState] at hstate
  simp only [hd] at hstate
  split at hstate
  · exact hheld _ hstate.symm
  · exact hfree hstate.symm

/-- **When a run is completed.** -/
theorem exists_writePages (ho : p.tree.Opens dir d) (hrs : ∀ r ∈ rs, FlatSlug r.page.slug)
    (ha : ∀ r ∈ rs, dir.Admits (pageFile r.page.slug))
    (hfree : ∀ r ∈ rs, p.tree.find? (dir.join (pageFile r.page.slug)) ≠ some .directory) :
    ∃ p', writePages digest dir rs p = (p', .ok ()) := by
  induction rs generalizing p with
  | nil => exact ⟨p, rfl⟩
  | cons r rest ih =>
    have hr : FlatSlug r.page.slug := hrs r List.mem_cons_self
    have hfirst : ∃ p₁, writePage digest dir r p = .ok p₁ :=
      exists_writePage ho hr (ha r List.mem_cons_self) (hfree r List.mem_cons_self)
    obtain ⟨p₁, hp₁⟩ := hfirst
    rw [writePages, hp₁]
    refine ih (opens_writePage ho hp₁) (fun r' hr' => hrs r' (List.mem_cons_of_mem _ hr'))
      (fun r' hr' => ha r' (List.mem_cons_of_mem _ hr')) fun r' hr' => ?_
    exact find?_writePage_ne_directory ho hr (hrs r' (List.mem_cons_of_mem _ hr')) hp₁
      (hfree r' (List.mem_cons_of_mem _ hr'))

theorem version_writePages {result : Except FileError Unit}
    (h : writePages digest dir rs p = (p', result)) : p'.manifest.version = p.manifest.version := by
  induction rs generalizing p with
  | nil =>
    cases h
    rfl
  | cons r rest ih =>
    rw [writePages] at h
    split at h
    · cases h
      rfl
    next p₁ hp₁ =>
      rw [ih h, manifest_writePage hp₁]
      rfl

/-! ### What a run says about its pages -/

/-- The status of a page, by its file before the run. -/
def statusOf (digest : String → String) (dir : Path) (p : Progress) (r : RenderedPage) :
    PageStatus :=
  if (p.fileState dir r.page.slug).Fresh (digest r.content.html) then .unchanged else .written

theorem statuses_writePage (h : writePage digest dir r p = .ok p') :
    p'.statuses = p.statuses ++ [statusOf digest dir p r] := by
  rcases writePage_eq_ok_iff.1 h with ⟨hf, rfl⟩ | ⟨hf, tree, -, rfl⟩
  · rw [statusOf, if_pos hf]
  · rw [statusOf, if_neg hf]

/-- **What a run says about its pages.** No page is in the way of another when the slugs are
distinct, so every status is decided by the files as they were. -/
theorem statuses_writePages (ho : p.tree.Opens dir d) (hrs : ∀ r ∈ rs, FlatSlug r.page.slug)
    (hnodup : (rs.map fun r => r.page.slug).Nodup)
    (h : writePages digest dir rs p = (p', .ok ())) :
    p'.statuses = p.statuses ++ rs.map (statusOf digest dir p) := by
  induction rs generalizing p with
  | nil =>
    cases h
    rw [List.map_nil, List.append_nil]
  | cons r rest ih =>
    rw [List.map_cons, List.nodup_cons] at hnodup
    have hrest : ∀ r' ∈ rest, FlatSlug r'.page.slug := fun r' hr' =>
      hrs r' (List.mem_cons_of_mem _ hr')
    rw [writePages] at h
    split at h
    · cases h
    next p₁ hp₁ =>
      have hstatus : ∀ r' ∈ rest, statusOf digest dir p₁ r' = statusOf digest dir p r' := by
        intro r' hr'
        have hne : r'.page.slug ≠ r.page.slug := fun he =>
          hnodup.1 (he ▸ List.mem_map_of_mem hr')
        rw [statusOf, statusOf,
          fileState_writePage ho (hrs r List.mem_cons_self) (hrest r' hr') hp₁, if_neg hne]
      rw [ih (opens_writePage ho hp₁) hrest hnodup.2 h, statuses_writePage hp₁,
        List.map_congr_left hstatus, List.append_assoc]
      rfl

/-- Where every file is fresh, a run changes neither the tree nor the manifest. -/
theorem writePages_of_fresh
    (h : ∀ r ∈ rs, (p.fileState dir r.page.slug).Fresh (digest r.content.html)) :
    ∃ p', writePages digest dir rs p = (p', .ok ()) ∧ p'.tree = p.tree ∧
      p'.manifest = p.manifest ∧ p'.statuses = p.statuses ++ rs.map fun _ => .unchanged := by
  induction rs generalizing p with
  | nil => exact ⟨p, rfl, rfl, rfl, by rw [List.map_nil, List.append_nil]⟩
  | cons r rest ih =>
    have hf := h r List.mem_cons_self
    have hinsert : p.manifest.insert (pageFile r.page.slug) (digest r.content.html) =
        p.manifest := by
      rw [Manifest.insert, SortedMap.insert_of_get? hf.1]
    rw [writePages, writePage_eq_ok_iff.2 (.inl ⟨hf, rfl⟩), hinsert]
    obtain ⟨p', hrun, htree, hmanifest, hstatuses⟩ :=
      ih (p := { p with
        statuses := p.statuses ++ [.unchanged]
        events := p.events ++ [.pageUnchanged r.page.slug] })
        fun r' hr' => h r' (List.mem_cons_of_mem _ hr')
    refine ⟨p', hrun, htree, hmanifest, ?_⟩
    rw [hstatuses, List.append_assoc]
    rfl

end Build

end StaticSite
