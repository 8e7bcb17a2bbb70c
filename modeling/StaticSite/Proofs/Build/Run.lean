import StaticSite.Proofs.Build.Refusal
import StaticSite.Proofs.Build.Writing
import StaticSite.Proofs.FileTree.Making

/-!
# One build of a directory

A run is what a build is asked for, apart from the directory. Between two runs a file of the output
directory is known by what the manifest has for it and by what is in its place, and this is all that
the next run sees of it. So a run that succeeds is described by what it makes of the `FileState` of
every file.

## How a run ends

A run that succeeds `Completes`: the directory was made, all pages were written and the manifest was
saved. A run that is refused leaves the tree as it was. A run that is stopped by a file has made the
directory and may have written any of its pages, but the manifest is the one from before.

## Main results

* `Run.exists_completes` — a run that succeeds went all the way
* `Run.Completes.fileState_eq`, `Run.Completes.entry?_eq` — what a successful run does
* `Run.tree_of_refused`, `Run.opens_of_stopped`, `Run.load_of_stopped` — what the others leave
* `Run.exists_ok` — when a run succeeds
-/

namespace StaticSite

namespace Build

/-- What a build is asked for, apart from the directory. -/
structure Run where
  config : SiteConfig
  pages : List Page
  useCache : Bool

/-- The tree that the writing of a build starts from. -/
def withDirectory (t : FileTree) (dir : Path) : FileTree := (t.makeDirectories dir).1

/-- What the next run sees of a file. -/
def fileState (t : FileTree) (dir : Path) (slug : String) : FileState where
  noted := (Manifest.load t dir).manifest.entries.get? (pageFile slug)
  held := t.find? (dir.join (pageFile slug))

namespace Run

/-- What the run does to a tree when workers meet its pages in the order `order`. -/
def outcomeBy (digest : String → String) (dir : Path) (order : List Page) (r : Run)
    (t : FileTree) : Outcome :=
  generateBy digest order r.config r.pages dir r.useCache t

/-- What the run does to a tree with a single worker. With more workers the tree is the same, by
`Build.generateBy_agrees`. -/
def outcome (digest : String → String) (dir : Path) (r : Run) (t : FileTree) : Outcome :=
  generate digest r.config r.pages dir r.useCache t

/-- The pages of the run as they are rendered, and no page if that is not possible. -/
def rendered (r : Run) : List RenderedPage :=
  match Site.assemble r.config r.pages with
  | .error _ => []
  | .ok site =>
    match site.renderAll r.pages with
    | .error _ => []
    | .ok rendered => rendered

/-- The contents that the run has for the file of a slug, in page order. -/
def htmls (r : Run) (slug : String) : List String := htmlsOf r.rendered slug

/-- The content that the run has for the file of a slug: that of the last page with it. -/
def html? (r : Run) (slug : String) : Option String := (r.htmls slug).getLast?

/-- All contents of the run. -/
def contents (r : Run) : List String := r.rendered.map fun q => q.content.html

/-- All slugs of the run are flat. -/
def Flat (r : Run) : Prop := ∀ p ∈ r.pages, FlatSlug p.slug

/-- The same run with the cache or without it. -/
def withCache (r : Run) (useCache : Bool) : Run := { r with useCache }

/-- All pages of the run can be rendered. -/
def Renders (r : Run) : Prop :=
  ∃ toc, Site.tocOf r.config r.pages = .ok toc ∧
    (Site.ofToc r.config r.pages toc).renderAll r.pages = .ok r.rendered

/-- Where the writing of pages starts. -/
def start (r : Run) (dir : Path) (t : FileTree) : Progress where
  tree := t
  manifest := (startManifest t dir r.useCache).1
  events := (startManifest t dir r.useCache).2

/-- The run goes all the way: `d` is where the directory is, and `p` how the writing ended. -/
structure Completes (digest : String → String) (dir : Path) (r : Run) (t : FileTree)
    (d : Location) (p : Progress) : Prop where
  made : (t.makeDirectories dir).2 = .ok ()
  opens : (withDirectory t dir).Opens dir d
  renders : r.Renders
  writes : writePages digest dir r.rendered (r.start dir (withDirectory t dir)) = (p, .ok ())
  saves : p.manifest.save p.tree dir = .ok (r.outcome digest dir t).tree

variable {digest : String → String} {dir : Path} {d : Location} {r : Run} {t : FileTree}
  {toc : Toc} {rs : List RenderedPage} {p : Progress} {slug html : String}

/-! ### The pages of a run -/

theorem mem_contents_of_mem_htmls (h : html ∈ r.htmls slug) : html ∈ r.contents := by
  obtain ⟨q, hq, rfl⟩ := List.mem_map.1 h
  exact List.mem_map_of_mem (List.mem_filter.1 hq).1

theorem mem_htmls_of_html? (h : r.html? slug = some html) : html ∈ r.htmls slug :=
  List.mem_of_getLast? h

theorem html?_eq_none_iff : r.html? slug = none ↔ r.htmls slug = [] :=
  List.getLast?_eq_none_iff

/-- A slug has a content exactly when a page has the slug. -/
theorem exists_html?_iff :
    (∃ html, r.html? slug = some html) ↔ ∃ q ∈ r.rendered, q.page.slug = slug := by
  rw [← Option.isSome_iff_exists, ← Option.ne_none_iff_isSome, Ne, html?_eq_none_iff, htmls,
    htmlsOf, List.map_eq_nil_iff, List.filter_eq_nil_iff]
  simp

theorem rendered_eq (htoc : Site.tocOf r.config r.pages = .ok toc)
    (hr : (Site.ofToc r.config r.pages toc).renderAll r.pages = .ok rs) : r.rendered = rs := by
  rw [rendered, Site.assemble_of_toc htoc]
  simp only [hr]

theorem Renders.map_page (h : r.Renders) : r.rendered.map RenderedPage.page = r.pages := by
  obtain ⟨toc, -, hr⟩ := h
  exact (Site.renderAll_eq_ok_iff.1 hr).1

theorem Renders.map_slug (h : r.Renders) :
    (r.rendered.map fun q => q.page.slug) = r.pages.map Page.slug := by
  rw [← h.map_page, List.map_map]
  rfl

theorem Renders.flat (h : r.Renders) (hflat : r.Flat) : ∀ q ∈ r.rendered, FlatSlug q.page.slug :=
  fun q hq => hflat q.page (h.map_page ▸ List.mem_map_of_mem hq)

/-! ### How a run ends -/

/-- A run is refused with the tree untouched, or all its pages are there. -/
theorem refused_or_rendered (digest : String → String) (dir : Path) (r : Run) (t : FileTree) :
    (∃ e, (∀ cause, e ≠ .file cause) ∧
      r.outcome digest dir t = { tree := t, result := .error e }) ∨ r.Renders := by
  cases htoc : Site.tocOf r.config r.pages with
  | error e => exact .inl ⟨.toc e, nofun, generate_of_toc_error htoc⟩
  | ok toc =>
    cases hr : (Site.ofToc r.config r.pages toc).renderAll r.pages with
    | error e =>
      obtain ⟨q, cause, hfirst, -⟩ := Site.renderAll_ofToc_eq_error_iff.1 hr
      exact .inl ⟨.render q.slug (.link cause), nofun, generate_of_firstFailure htoc hfirst⟩
    | ok rs => exact .inr ⟨toc, htoc, by rw [rendered_eq htoc hr, hr]⟩

/-- A run whose directory cannot be made is stopped there. -/
theorem outcome_of_not_made (htoc : Site.tocOf r.config r.pages = .ok toc)
    (hr : (Site.ofToc r.config r.pages toc).renderAll r.pages = .ok r.rendered) {e : FileError}
    (hmade : (t.makeDirectories dir).2 = .error e) :
    (r.outcome digest dir t).tree = withDirectory t dir ∧
      (r.outcome digest dir t).result = .error (.file e) := by
  have hm : t.makeDirectories dir = (withDirectory t dir, .error e) := Prod.ext rfl hmade
  rw [outcome, generate_of_not_made htoc hr hm]
  exact ⟨rfl, rfl⟩

/-- Once the directory is made, pages are written, and then the manifest. The run is stopped by the
first of them that fails. -/
theorem outcome_of_made (digest : String → String) (r : Run)
    (htoc : Site.tocOf r.config r.pages = .ok toc)
    (hr : (Site.ofToc r.config r.pages toc).renderAll r.pages = .ok r.rendered)
    (hmade : (t.makeDirectories dir).2 = .ok ()) :
    ∃ p written,
      writePages digest dir r.rendered (r.start dir (withDirectory t dir)) = (p, written) ∧
      ((∃ e, (written = .error e ∨ written = .ok () ∧ p.manifest.save p.tree dir = .error e) ∧
          (r.outcome digest dir t).result = .error (.file e) ∧
          (r.outcome digest dir t).tree = p.tree) ∨
        written = .ok () ∧ p.manifest.save p.tree dir = .ok (r.outcome digest dir t).tree ∧
          (r.outcome digest dir t).result = .ok {
            project := r.config.project.name
            version := r.config.project.version
            outputDir? := some dir.text
            pages := List.zipWith (pageReport toc) r.rendered p.statuses }) := by
  have hm : t.makeDirectories dir = (withDirectory t dir, .ok ()) := Prod.ext rfl hmade
  have htree : (r.outcome digest dir t).tree =
      (writeSite digest (Site.ofToc r.config r.pages toc) r.rendered dir r.useCache
        (withDirectory t dir)).tree := by
    rw [outcome, generate_of_made htoc hr hm]
  have hresult : (r.outcome digest dir t).result =
      (writeSite digest (Site.ofToc r.config r.pages toc) r.rendered dir r.useCache
        (withDirectory t dir)).result := by
    rw [outcome, generate_of_made htoc hr hm]
  rcases hw : writePages digest dir r.rendered (r.start dir (withDirectory t dir)) with ⟨p, written⟩
  refine ⟨p, written, rfl, ?_⟩
  rw [start] at hw
  rw [htree, hresult]
  cases written with
  | error e =>
    refine .inl ⟨e, .inl rfl, ?_⟩
    rw [writeSite]
    simp only [hw, and_self]
  | ok _ =>
    cases hs : p.manifest.save p.tree dir with
    | error e =>
      refine .inl ⟨e, .inr ⟨rfl, rfl⟩, ?_⟩
      rw [writeSite]
      simp only [hw, hs, and_self]
    | ok t' =>
      refine .inr ⟨rfl, ?_⟩
      rw [writeSite]
      simp only [hw, hs, true_and]
      exact siteReport_ofToc r.config r.pages toc _ _

variable {report : SiteReport} {e : FileError}

/-- **A run that succeeds went all the way.** -/
theorem exists_completes (h : (r.outcome digest dir t).result = .ok report) :
    ∃ toc d p, Completes digest dir r t d p ∧
      report.pages = List.zipWith (pageReport toc) r.rendered p.statuses := by
  obtain ⟨e, -, ho⟩ | ⟨toc, htoc, hr⟩ := refused_or_rendered digest dir r t
  · rw [ho] at h
    cases h
  cases hmade : (t.makeDirectories dir).2 with
  | error e =>
    rw [(outcome_of_not_made htoc hr hmade).2] at h
    cases h
  | ok _ =>
    obtain ⟨d, hopen⟩ := FileTree.opens_makeDirectories hmade
    obtain ⟨p, written, hw, ⟨e, -, he, -⟩ | ⟨rfl, hs, hok⟩⟩ :=
      outcome_of_made digest r htoc hr hmade
    · rw [he] at h
      cases h
    · rw [hok] at h
      cases h
      exact ⟨toc, d, p, ⟨hmade, hopen, ⟨toc, htoc, hr⟩, hw, hs⟩, rfl⟩

/-- **A run that is refused leaves the tree as it was.** -/
theorem tree_of_refused {e : SiteError} (h : (r.outcome digest dir t).result = .error e)
    (hfile : ∀ cause, e ≠ .file cause) : (r.outcome digest dir t).tree = t := by
  obtain ⟨e', -, ho⟩ | ⟨toc, htoc, hr⟩ := refused_or_rendered digest dir r t
  · rw [ho]
  rcases ok_or_file_error digest dir r.useCache t htoc
    (Site.exists_renderAll_ofToc_iff.1 ⟨_, hr⟩) with ⟨report, hok⟩ | ⟨cause, he⟩
  · rw [outcome, hok] at h
    cases h
  · rw [outcome, he] at h
    cases h
    exact absurd rfl (hfile cause)

/-- A run that is stopped by a file has touched the places of pages only, once the directory was
made. -/
theorem keepsOthers_of_stopped (hmade : (t.makeDirectories dir).2 = .ok ())
    (h : (r.outcome digest dir t).result = .error (.file e)) :
    KeepsOthers (withDirectory t dir) (r.outcome digest dir t).tree := by
  obtain ⟨e', hfile, ho⟩ | ⟨toc, htoc, hr⟩ := refused_or_rendered digest dir r t
  · rw [ho] at h
    cases h
    exact absurd rfl (hfile e)
  obtain ⟨p, written, hw, ⟨-, -, -, ht⟩ | ⟨-, -, hok⟩⟩ :=
    outcome_of_made digest r htoc hr hmade
  · rw [ht]
    exact keepsOthers_writePages hw
  · rw [hok] at h
    cases h

/-- The directory of a stopped run is open. -/
theorem opens_of_stopped (hmade : (t.makeDirectories dir).2 = .ok ())
    (h : (r.outcome digest dir t).result = .error (.file e)) :
    ∃ d, (r.outcome digest dir t).tree.Opens dir d := by
  obtain ⟨d, ho⟩ := FileTree.opens_makeDirectories hmade
  exact ⟨d, (keepsOthers_of_stopped hmade h).opens ho⟩

/-- **A stopped run leaves the manifest from before.** -/
theorem load_of_stopped (hmade : (t.makeDirectories dir).2 = .ok ())
    (h : (r.outcome digest dir t).result = .error (.file e)) :
    Manifest.load (r.outcome digest dir t).tree dir = Manifest.load (withDirectory t dir) dir := by
  obtain ⟨d, ho⟩ := FileTree.opens_makeDirectories hmade
  exact Manifest.load_congr ((keepsOthers_of_stopped hmade h).find?_manifest ho)

/-- **A run that fails saves no manifest.** What is in its place was there before, or once the
directory was made. -/
theorem find?_manifest_of_error {e : SiteError} (h : (r.outcome digest dir t).result = .error e) :
    (r.outcome digest dir t).tree.find? (dir.join manifestFile) =
        t.find? (dir.join manifestFile) ∨
      (r.outcome digest dir t).tree.find? (dir.join manifestFile) =
        (withDirectory t dir).find? (dir.join manifestFile) := by
  obtain ⟨e', -, ho⟩ | ⟨toc, htoc, hr⟩ := refused_or_rendered digest dir r t
  · left
    rw [ho]
  right
  cases hmade : (t.makeDirectories dir).2 with
  | error cause => rw [(outcome_of_not_made htoc hr hmade).1]
  | ok _ =>
    obtain ⟨d, hopen⟩ := FileTree.opens_makeDirectories hmade
    obtain ⟨p, written, hw, ⟨-, -, -, ht⟩ | ⟨-, -, hok⟩⟩ := outcome_of_made digest r htoc hr hmade
    · rw [ht]
      exact (keepsOthers_writePages hw).find?_manifest hopen
    · rw [hok] at h
      cases h

/-- A report has the pages with their statuses, in page order. -/
theorem zipWith_pageReport (toc : Toc) (rs : List RenderedPage)
    (status : RenderedPage → PageStatus) :
    List.zipWith (pageReport toc) rs (rs.map status) =
      rs.map fun q => pageReport toc q (status q) := by
  rw [List.zipWith_map_right, List.zipWith_self]

/-! ### What a successful run does -/

theorem version_start (r : Run) (dir : Path) (t : FileTree) :
    (r.start dir t).manifest.version = manifestVersion := by
  rw [start, startManifest]
  cases r.useCache with
  | true => exact Manifest.version_load t dir
  | false => rfl

/-- What a run sees of a file: without the cache, nothing is noted. -/
theorem fileState_start (r : Run) (dir : Path) (t : FileTree) (slug : String) :
    (r.start dir t).fileState dir slug =
      { noted := if r.useCache then (fileState t dir slug).noted else none
        held := t.find? (dir.join (pageFile slug)) } := by
  rw [Progress.fileState, start, startManifest]
  cases r.useCache <;> rfl

namespace Completes

theorem opens_written (h : Completes digest dir r t d p) : p.tree.Opens dir d :=
  (keepsOthers_writePages h.writes).opens h.opens

/-- The manifest is put into its place. -/
theorem tree_eq (h : Completes digest dir r t d p) :
    dir.Admits manifestFile ∧ p.tree.find? (dir.join manifestFile) ≠ some .directory ∧
      (r.outcome digest dir t).tree =
        p.tree.put (d.below manifestFile) (.file p.manifest.text.toUTF8) :=
  (Manifest.save_eq_ok_iff h.opens_written).1 h.saves

theorem opens_after (h : Completes digest dir r t d p) :
    (r.outcome digest dir t).tree.Opens dir d := by
  obtain ⟨ha, hfree, ht⟩ := h.tree_eq
  rw [h.opens_written.find?_join isFileName_manifestFile, if_pos ha] at hfree
  rw [ht]
  exact h.opens_written.put_file hfree _

theorem load_after (h : Completes digest dir r t d p) :
    (Manifest.load (r.outcome digest dir t).tree dir).manifest = p.manifest :=
  Manifest.load_save h.opens_written
    ((version_writePages h.writes).trans (version_start r dir _)) h.saves

theorem find?_manifest (h : Completes digest dir r t d p) :
    (r.outcome digest dir t).tree.find? (dir.join manifestFile) =
      some (.file p.manifest.text.toUTF8) :=
  Manifest.find?_save h.opens_written h.saves

/-- The manifest is no page, so what is in the place of a page is what the writing left there. -/
theorem find?_after (h : Completes digest dir r t d p) (hslug : FlatSlug slug) :
    (r.outcome digest dir t).tree.find? (dir.join (pageFile slug)) =
      p.tree.find? (dir.join (pageFile slug)) := by
  obtain ⟨ha, hfree, ht⟩ := h.tree_eq
  rw [ht, h.opens_written.find?_put_join hslug.isFileName isFileName_manifestFile ha hfree,
    if_neg (pageFile_ne_manifestFile slug)]

/-- **What a successful run does to a file**, as the next run sees it. -/
theorem fileState_eq (h : Completes digest dir r t d p) (hflat : r.Flat) (hslug : FlatSlug slug) :
    fileState (r.outcome digest dir t).tree dir slug =
      (r.htmls slug).foldl (FileState.settle digest)
        ((r.start dir (withDirectory t dir)).fileState dir slug) := by
  rw [fileState, h.load_after, h.find?_after hslug, htmls,
    ← fileState_writePages h.opens (h.renders.flat hflat) hslug h.writes]
  rfl

/-- **What a successful run does not touch.** -/
theorem entry?_eq (h : Completes digest dir r t d p) (hflat : r.Flat) {l : Location}
    (hmanifest : l ≠ d.below manifestFile)
    (hpages : ∀ q ∈ r.rendered, l ≠ d.below (pageFile q.page.slug)) :
    (r.outcome digest dir t).tree.entry? l = FileTree.entry? (withDirectory t dir) l := by
  obtain ⟨-, -, ht⟩ := h.tree_eq
  rw [ht, FileTree.entry?_put (Location.below_ne_top d isFileName_manifestFile.ne_empty),
    if_neg hmanifest]
  exact (entry?_writePages h.opens (h.renders.flat hflat) h.writes).2 l hpages

/-- The pages of a successful run are admitted to the directory. -/
theorem admits (h : Completes digest dir r t d p) (hflat : r.Flat) {q : RenderedPage}
    (hq : q ∈ r.rendered) : dir.Admits (pageFile q.page.slug) :=
  (entry?_writePages h.opens (h.renders.flat hflat) h.writes).1 q hq

/-- Where a file was left, no directory was before. -/
theorem find?_ne_directory (h : Completes digest dir r t d p) (hslug : FlatSlug slug)
    (hfile : (r.outcome digest dir t).tree.find? (dir.join (pageFile slug)) ≠ some .directory) :
    (withDirectory t dir).find? (dir.join (pageFile slug)) ≠ some .directory := by
  intro hd
  have ha := h.opens.admits_of_find? hslug.isFileName hd
  rw [h.find?_after hslug, h.opens_written.find?_join hslug.isFileName, if_pos ha] at hfile
  rw [h.opens.find?_join hslug.isFileName, if_pos ha] at hd
  exact hfile ((keepsOthers_writePages h.writes).directories _ hd)

/-- What was put is there: every page of a successful run is noted, and something is in its
place. -/
theorem fresh_after (h : Completes digest dir r t d p) (hflat : r.Flat)
    (hnodup : (r.pages.map Page.slug).Nodup) {q : RenderedPage} (hq : q ∈ r.rendered) :
    (fileState (r.outcome digest dir t).tree dir q.page.slug).Fresh (digest q.content.html) := by
  rw [h.fileState_eq hflat (h.renders.flat hflat q hq), htmls,
    htmlsOf_of_nodup (h.renders.map_slug ▸ hnodup) hq]
  exact ⟨rfl, FileState.isSome_held_settle _ _⟩

/-- Saving the same manifest once more changes nothing. -/
theorem save_again (h : Completes digest dir r t d p) :
    p.manifest.save (r.outcome digest dir t).tree dir = .ok (r.outcome digest dir t).tree :=
  Manifest.save_save h.opens_written h.saves

/-- **A run that is repeated at once** writes no page and leaves the tree as it is, down to the text
of the manifest. -/
theorem rerun (h : Completes digest dir r t d p) (hflat : r.Flat)
    (hnodup : (r.pages.map Page.slug).Nodup) :
    ∃ report, ((r.withCache true).outcome digest dir (r.outcome digest dir t).tree).result =
        .ok report ∧
      ((r.withCache true).outcome digest dir (r.outcome digest dir t).tree).tree =
        (r.outcome digest dir t).tree ∧
      ∀ q ∈ report.pages, q.status = .unchanged := by
  have hopen := h.opens_after
  have hmade : ((r.outcome digest dir t).tree.makeDirectories dir).2 = .ok () := by
    rw [hopen.makeDirectories]
  have hfresh : ∀ q ∈ r.rendered, (((r.withCache true).start dir
      (r.outcome digest dir t).tree).fileState dir q.page.slug).Fresh
        (digest q.content.html) := by
    intro q hq
    rw [fileState_start]
    exact h.fresh_after hflat hnodup hq
  obtain ⟨p', hwrites, htree, hmanifest, hstatuses⟩ := writePages_of_fresh hfresh
  obtain ⟨toc, htoc, hr⟩ := h.renders
  obtain ⟨p'', written, hw, hend⟩ := outcome_of_made digest (r.withCache true) htoc hr hmade
  rw [withDirectory, hopen.makeDirectories] at hw
  obtain ⟨rfl, rfl⟩ := Prod.mk.inj (hw.symm.trans hwrites)
  -- The manifest is the one that was loaded, so the same text is put where it was.
  have hsaves : p''.manifest.save p''.tree dir = .ok (r.outcome digest dir t).tree := by
    rw [htree, hmanifest.trans h.load_after]
    exact h.save_again
  rcases hend with ⟨e, hwritten | ⟨-, hno⟩, -⟩ | ⟨-, hsaves', hok⟩
  · cases hwritten
  · rw [hsaves] at hno
    cases hno
  · refine ⟨_, hok, Except.ok.inj (hsaves'.symm.trans hsaves), fun q hq => ?_⟩
    have hstatuses' : p''.statuses = (r.withCache true).rendered.map fun _ => .unchanged :=
      hstatuses
    rw [hstatuses', zipWith_pageReport] at hq
    obtain ⟨q', -, rfl⟩ := List.mem_map.1 hq
    rfl

end Completes

/-- **When a run succeeds.** The directory has to admit all files, and no directory may be in the
place of one. -/
theorem exists_ok (hrenders : r.Renders) (hflat : r.Flat)
    (hmade : (t.makeDirectories dir).2 = .ok ())
    (hpages : ∀ q ∈ r.rendered, dir.Admits (pageFile q.page.slug) ∧
      (withDirectory t dir).find? (dir.join (pageFile q.page.slug)) ≠ some .directory)
    (hmanifest : dir.Admits manifestFile ∧
      (withDirectory t dir).find? (dir.join manifestFile) ≠ some .directory) :
    ∃ report, (r.outcome digest dir t).result = .ok report := by
  obtain ⟨d, hopen⟩ := FileTree.opens_makeDirectories hmade
  obtain ⟨toc, htoc, hr⟩ := hrenders
  obtain ⟨p, written, hw, ⟨e, hno, -⟩ | ⟨-, -, hok⟩⟩ :=
    outcome_of_made digest r htoc hr hmade
  · -- Neither a page nor the manifest can have stopped the run.
    have hwrites : ∃ p',
        writePages digest dir r.rendered (r.start dir (withDirectory t dir)) = (p', .ok ()) :=
      exists_writePages hopen (Renders.flat ⟨toc, htoc, hr⟩ hflat)
        (fun q hq => (hpages q hq).1) fun q hq => (hpages q hq).2
    obtain ⟨p', hw'⟩ := hwrites
    rw [hw] at hw'
    cases hw'
    have hkeeps := keepsOthers_writePages hw
    have hsaves : p.manifest.save p.tree dir =
        .ok (p.tree.put (d.below manifestFile) (.file p.manifest.text.toUTF8)) := by
      refine ((hkeeps.opens hopen).writeText_iff isFileName_manifestFile).2 ⟨hmanifest.1, ?_, rfl⟩
      rw [hkeeps.find?_manifest hopen]
      exact hmanifest.2
    rcases hno with hno | ⟨-, hno⟩
    · cases hno
    · rw [hsaves] at hno
      cases hno
  · exact ⟨_, hok⟩

/-- When a run succeeds in a directory that is open. -/
theorem exists_ok_of_opens (hrenders : r.Renders) (hflat : r.Flat) (hopen : t.Opens dir d)
    (hpages : ∀ q ∈ r.rendered, dir.Admits (pageFile q.page.slug) ∧
      t.find? (dir.join (pageFile q.page.slug)) ≠ some .directory)
    (hmanifest : dir.Admits manifestFile ∧
      t.find? (dir.join manifestFile) ≠ some .directory) :
    ∃ report, (r.outcome digest dir t).result = .ok report := by
  have hsame : withDirectory t dir = t := by rw [withDirectory, hopen.makeDirectories]
  refine exists_ok hrenders hflat (by rw [hopen.makeDirectories]) ?_ ?_
  · rwa [hsame]
  · rwa [hsame]

/-- **Where a run is stopped**: at the first page that cannot be written, with what was written
before it in place. -/
theorem outcome_of_writePage_error (hrenders : r.Renders)
    (hmade : (t.makeDirectories dir).2 = .ok ()) {before after : List RenderedPage}
    {q : RenderedPage} (hsplit : r.rendered = before ++ q :: after)
    (hbefore : writePages digest dir before (r.start dir (withDirectory t dir)) = (p, .ok ()))
    (hq : writePage digest dir q p = .error e) :
    (r.outcome digest dir t).result = .error (.file e) ∧
      (r.outcome digest dir t).tree = p.tree := by
  obtain ⟨toc, htoc, hr⟩ := hrenders
  obtain ⟨p', written, hw, hend⟩ := outcome_of_made digest r htoc hr hmade
  simp only [hsplit, writePages_append, hbefore, writePages, hq] at hw
  obtain ⟨rfl, rfl⟩ := Prod.mk.inj hw
  rcases hend with ⟨e', hwritten | ⟨hwritten, -⟩, hresult, htree⟩ | ⟨hwritten, -⟩
  · cases hwritten
    exact ⟨hresult, htree⟩
  · cases hwritten
  · cases hwritten

/-! ### Plain runs -/

/-- A page that is the same whatever its links are. -/
def plainPage (slug text : String) : Page :=
  { slug, title := slug, body := fun _ => .ok (.ofHtml text) }

/-- A run of plain pages with nothing configured. -/
def plain (useCache : Bool) (texts : List (String × String)) : Run :=
  { config := {}, pages := texts.map fun x => plainPage x.1 x.2, useCache }

theorem tocOf_plain (useCache : Bool) (texts : List (String × String)) :
    Site.tocOf (plain useCache texts).config (plain useCache texts).pages = .ok .empty := by
  have hnone : ((plain useCache texts).pages.map fun p => (p.slug, p.sections)).flatMap
      (fun x => x.2.map fun id => (id, x.1)) = [] := by
    simp [plain, plainPage]
  rw [Site.tocOf, Toc.build, Toc.declarations, hnone]
  rfl

/-- The pages of a plain run, as they are rendered. -/
theorem renderAll_plain (useCache : Bool) (texts : List (String × String)) :
    (Site.ofToc (plain useCache texts).config (plain useCache texts).pages .empty).renderAll
        (plain useCache texts).pages =
      .ok (texts.map fun x => ⟨plainPage x.1 x.2, Site.frame {} (plain useCache texts).pages
        (plainPage x.1 x.2) (.ofHtml x.2)⟩) := by
  refine Site.renderAll_eq_ok_iff.2 ⟨?_, fun q hq => ?_⟩
  · rw [List.map_map]
    rfl
  · obtain ⟨x, -, rfl⟩ := List.mem_map.1 hq
    exact Site.renderPage_eq _ _ _ _

theorem rendered_plain (useCache : Bool) (texts : List (String × String)) :
    (plain useCache texts).rendered =
      texts.map fun x => ⟨plainPage x.1 x.2, Site.frame {} (plain useCache texts).pages
        (plainPage x.1 x.2) (.ofHtml x.2)⟩ :=
  rendered_eq (tocOf_plain useCache texts) (renderAll_plain useCache texts)

theorem renders_plain (useCache : Bool) (texts : List (String × String)) :
    (plain useCache texts).Renders :=
  ⟨.empty, tocOf_plain useCache texts, by rw [rendered_plain, renderAll_plain]⟩

end Run

end Build

end StaticSite
