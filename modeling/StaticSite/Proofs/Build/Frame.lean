import StaticSite.Proofs.Build.Cache

/-!
# What a build touches

A build goes through its pages in order, and what it makes of a page depends on what the pages in
front of it have left: a slug may be there several times. So a row of the report is about the turn
of its page, and this module says what a row means at that turn and what it means for the tree.

## No condition on what was there

Nothing is asked of the tree. The output directory may be missing or hold any files, and its
manifest may be missing, broken or wrong about every file. A wrong manifest can make a build leave a
file alone that it should have written, but not touch a file that it does not report.

## What differs afterwards

A place of the tree that differs after a successful build is the manifest, the file of a page that
is reported as written, or a directory on the way to the output directory that was missing. The
argument follows the pages: each step either leaves the tree as it is or puts one file, and then
says so.

## Main results

* `Build.exists_turn` — what the row of a page says about its turn
* `Build.exists_written_of_ne` — what differs after the pages was written at some turn
* `Build.get?_writePages_of_ne` — what is noted of files that are no page
* `Build.touches_only_reported` — all of it, for a successful build
-/

namespace StaticSite

namespace Build

variable {digest : String → String} {dir : Path} {d l : Location} {t : FileTree}
  {q : RenderedPage} {rs before after : List RenderedPage} {p p' : Progress} {r : Run}
  {toc : Toc} {report : SiteReport}

/-! ### The turn of a page -/

/-- A run adds a status for each of its pages. -/
theorem exists_statuses_writePages (h : writePages digest dir rs p = (p', .ok ())) :
    ∃ added, p'.statuses = p.statuses ++ added ∧ added.length = rs.length := by
  induction rs generalizing p with
  | nil =>
    cases h
    exact ⟨[], by rw [List.append_nil], rfl⟩
  | cons r rest ih =>
    rw [writePages] at h
    split at h
    · cases h
    next p₁ hp₁ =>
      obtain ⟨added, hadded, hlength⟩ := ih h
      refine ⟨statusOf digest dir p r :: added, ?_, by rw [List.length_cons, hlength]; rfl⟩
      rw [hadded, statuses_writePage hp₁, List.append_assoc]
      rfl

/-- **The turn of a page.** The pages in front of it have been written when it comes, and its status
is decided by what there is then. -/
theorem exists_turn (h : writePages digest dir (before ++ q :: after) p = (p', .ok ())) :
    ∃ turn, writePages digest dir before p = (turn, .ok ()) ∧
      p'.statuses[p.statuses.length + before.length]? = some (statusOf digest dir turn q) := by
  rw [writePages_append] at h
  rcases hbefore : writePages digest dir before p with ⟨turn, _ | _⟩
  · rw [hbefore] at h
    cases h
  · simp only [hbefore, writePages] at h
    split at h
    · cases h
    next p₁ hp₁ =>
      obtain ⟨first, hfirst, hlength⟩ := exists_statuses_writePages hbefore
      obtain ⟨rest, hrest, -⟩ := exists_statuses_writePages h
      refine ⟨turn, rfl, ?_⟩
      rw [hrest, statuses_writePage hp₁, hfirst, ← hlength, ← List.length_append,
        List.append_assoc, List.getElem?_append_right (Nat.le_refl _), Nat.sub_self]
      rfl

/-- What a status says about the time it was decided: an unchanged page has its digest in the
manifest and something in the place of its file, and a written page has not both. -/
theorem statusOf_cases (digest : String → String) (dir : Path) (p : Progress) (q : RenderedPage) :
    (statusOf digest dir p q = .unchanged ∧
        p.manifest.entries.get? (pageFile q.page.slug) = some (digest q.content.html) ∧
        p.tree.holds (dir.join (pageFile q.page.slug)) = true) ∨
      statusOf digest dir p q = .written ∧
        ¬(p.manifest.entries.get? (pageFile q.page.slug) = some (digest q.content.html) ∧
          p.tree.holds (dir.join (pageFile q.page.slug)) = true) := by
  by_cases h : (p.fileState dir q.page.slug).Fresh (digest q.content.html)
  · exact .inl ⟨if_pos h, h⟩
  · exact .inr ⟨if_neg h, h⟩

/-- No page puts a directory into the place of a file. -/
theorem find?_writePages_ne_directory {slug : String} (ho : p.tree.Opens dir d)
    (hrs : ∀ r ∈ rs, FlatSlug r.page.slug) (hslug : FlatSlug slug)
    (h : writePages digest dir rs p = (p', .ok ()))
    (hfree : p.tree.find? (dir.join (pageFile slug)) ≠ some .directory) :
    p'.tree.find? (dir.join (pageFile slug)) ≠ some .directory := by
  induction rs generalizing p with
  | nil =>
    cases h
    exact hfree
  | cons r rest ih =>
    rw [writePages] at h
    split at h
    · cases h
    next p₁ hp₁ =>
      refine ih (opens_writePage ho hp₁) (fun r' hr' => hrs r' (List.mem_cons_of_mem _ hr')) h ?_
      exact find?_writePage_ne_directory ho (hrs r List.mem_cons_self) hslug hp₁ hfree

/-! ### What differs after the pages -/

/-- A page that changes a place has the place for its file, and is written. -/
theorem statusOf_of_ne (ho : p.tree.Opens dir d) (hq : FlatSlug q.page.slug)
    (h : writePage digest dir q p = .ok p') (hne : p'.tree.entry? l ≠ p.tree.entry? l) :
    statusOf digest dir p q = .written ∧ l = d.below (pageFile q.page.slug) := by
  refine ⟨?_, by_contra fun hl => hne (entry?_writePage ho hq h hl)⟩
  obtain ⟨-, ⟨-, hsame⟩ | ⟨hf, -⟩⟩ := writePage_cases ho hq h
  · exact absurd (by rw [hsame]) hne
  · rw [statusOf, if_neg hf]

/-- **What differs after the pages** is the file of one that was written at its turn. -/
theorem exists_written_of_ne (ho : p.tree.Opens dir d) (hrs : ∀ r ∈ rs, FlatSlug r.page.slug)
    (h : writePages digest dir rs p = (p', .ok ())) (hne : p'.tree.entry? l ≠ p.tree.entry? l) :
    ∃ before q after turn, rs = before ++ q :: after ∧
      writePages digest dir before p = (turn, .ok ()) ∧
      statusOf digest dir turn q = .written ∧ l = d.below (pageFile q.page.slug) := by
  induction rs generalizing p with
  | nil =>
    cases h
    exact absurd rfl hne
  | cons r rest ih =>
    rw [writePages] at h
    split at h
    · cases h
    next p₁ hp₁ =>
      by_cases hfirst : p₁.tree.entry? l = p.tree.entry? l
      · obtain ⟨before, q, after, turn, rfl, hbefore, hq⟩ := ih (opens_writePage ho hp₁)
          (fun r' hr' => hrs r' (List.mem_cons_of_mem _ hr')) h (hfirst ▸ hne)
        refine ⟨r :: before, q, after, turn, rfl, ?_, hq⟩
        rw [writePages, hp₁]
        exact hbefore
      · exact ⟨[], r, rest, p, rfl, rfl, statusOf_of_ne ho (hrs r List.mem_cons_self) hp₁ hfirst⟩

/-- **What is noted of a file that is no page** is not touched. -/
theorem get?_writePages_of_ne {file : String} (h : writePages digest dir rs p = (p', .ok ()))
    (hfile : ∀ r ∈ rs, file ≠ pageFile r.page.slug) :
    p'.manifest.entries.get? file = p.manifest.entries.get? file := by
  induction rs generalizing p with
  | nil =>
    cases h
    rfl
  | cons r rest ih =>
    rw [writePages] at h
    split at h
    · cases h
    next p₁ hp₁ =>
      rw [ih h fun r' hr' => hfile r' (List.mem_cons_of_mem _ hr'), manifest_writePage hp₁,
        Manifest.insert, SortedMap.get?_insert, if_neg (hfile r List.mem_cons_self)]

/-! ### What differs after a build -/

/-- The turn of a page in a build: the pages in front of it are written, and `turn` is how far the
work has come. -/
def Run.AtTurn (digest : String → String) (dir : Path) (r : Run) (t : FileTree)
    (before : List RenderedPage) (turn : Progress) : Prop :=
  writePages digest dir before (r.start dir (withDirectory t dir)) = (turn, .ok ())

/-- What a build that succeeded has touched, told by its report; `d` is where the output directory
is. -/
structure Run.Accounts (digest : String → String) (dir : Path) (r : Run) (t : FileTree)
    (report : SiteReport) (d : Location) : Prop where
  opens : (r.outcome digest dir t).tree.Opens dir d
  /-- What differs is the manifest, the file of a page that is reported as written, or a directory
  on the way that was missing. -/
  differs : ∀ l, (r.outcome digest dir t).tree.entry? l ≠ t.entry? l →
    l = d.below manifestFile ∨
      (∃ row ∈ report.pages, row.status = .written ∧ l = d.below row.file) ∨
      t.entry? l = none ∧ l ∈ dir.way ∧
        (r.outcome digest dir t).tree.entry? l = some .directory
  /-- On the way of a path that only goes down are the output directory and those that it is in. -/
  way : ".." ∉ dir.steps → ∀ l ∈ dir.way, d = l ∨ d.isWithin l = true
  pages : r.rendered.map RenderedPage.page = r.pages
  rows : (report.pages.map fun row => (row.slug, row.file)) =
    r.pages.map fun q => (q.slug, pageFile q.slug)
  /-- Each row is that of its page and tells what there was at the page's turn. -/
  turns : ∀ before q after, r.rendered = before ++ q :: after →
    ∃ turn row, r.AtTurn digest dir t before turn ∧
      report.pages[before.length]? = some row ∧ row.file = pageFile q.page.slug ∧
      ((row.status = .unchanged ∧
          turn.manifest.entries.get? row.file = some (digest q.content.html) ∧
          turn.tree.holds (dir.join row.file) = true) ∨
        row.status = .written ∧
          ¬(turn.manifest.entries.get? row.file = some (digest q.content.html) ∧
            turn.tree.holds (dir.join row.file) = true)) ∧
      ((withDirectory t dir).find? (dir.join row.file) ≠ some .directory →
        turn.tree.find? (dir.join row.file) ≠ some .directory)
  manifest : (r.outcome digest dir t).tree.find? (dir.join manifestFile) =
    some (.file (Manifest.load (r.outcome digest dir t).tree dir).manifest.text.toUTF8)
  /-- Every page's file is noted with the content of the last page that has the slug. -/
  noted : ∀ slug html, r.html? slug = some html →
    (Manifest.load (r.outcome digest dir t).tree dir).manifest.entries.get? (pageFile slug) =
      some (digest html)
  /-- What was loaded for other files is kept. -/
  kept : ∀ file, (∀ q ∈ r.pages, file ≠ pageFile q.slug) →
    (Manifest.load (r.outcome digest dir t).tree dir).manifest.entries.get? file =
      if r.useCache then (Manifest.load (withDirectory t dir) dir).manifest.entries.get? file
      else none

namespace Run

theorem Renders.ne_pageFile (h : r.Renders) {file : String}
    (hfile : ∀ q ∈ r.pages, file ≠ pageFile q.slug) :
    ∀ q ∈ r.rendered, file ≠ pageFile q.page.slug :=
  fun q hq => hfile q.page (h.map_page ▸ List.mem_map_of_mem hq)

/-- What is noted when the writing starts. -/
theorem get?_start (r : Run) (dir : Path) (t : FileTree) (file : String) :
    (r.start dir t).manifest.entries.get? file =
      if r.useCache then (Manifest.load t dir).manifest.entries.get? file else none := by
  rw [start, startManifest]
  cases r.useCache <;> rfl

namespace Completes

/-- A row of the report is about the turn of its page. -/
theorem exists_row (h : Completes digest dir r t d p)
    (hreport : report.pages = List.zipWith (pageReport toc) r.rendered p.statuses)
    (hsplit : r.rendered = before ++ q :: after) :
    ∃ turn, r.AtTurn digest dir t before turn ∧
      report.pages[before.length]? = some (pageReport toc q (statusOf digest dir turn q)) := by
  have hwrites := h.writes
  rw [hsplit] at hwrites
  obtain ⟨turn, hturn, hstatus⟩ := exists_turn hwrites
  refine ⟨turn, hturn, ?_⟩
  have hstart : (r.start dir (withDirectory t dir)).statuses.length = 0 := rfl
  rw [hstart, Nat.zero_add] at hstatus
  rw [hreport, List.getElem?_zipWith_eq_some]
  refine ⟨q, _, ?_, hstatus, rfl⟩
  rw [hsplit, List.getElem?_append_right (Nat.le_refl _), Nat.sub_self]
  rfl

/-- The report has a row for each page, in the order of the pages. -/
theorem map_rows (h : Completes digest dir r t d p)
    (hreport : report.pages = List.zipWith (pageReport toc) r.rendered p.statuses) :
    (report.pages.map fun row => (row.slug, row.file)) =
      r.pages.map fun q => (q.slug, pageFile q.slug) := by
  obtain ⟨added, hadded, hlength⟩ := exists_statuses_writePages h.writes
  have hstatuses : p.statuses.length = r.rendered.length := by
    rw [hadded, List.length_append, hlength]
    exact Nat.zero_add _
  rw [hreport, ← h.renders.map_page, List.map_zipWith, List.map_map]
  refine List.ext_getElem (by simp [hstatuses]) fun i hi _ => ?_
  simp [pageReport]

/-- **What differs after a build.** -/
theorem differs (h : Completes digest dir r t d p) (hflat : r.Flat)
    (hreport : report.pages = List.zipWith (pageReport toc) r.rendered p.statuses)
    (hne : (r.outcome digest dir t).tree.entry? l ≠ t.entry? l) :
    l = d.below manifestFile ∨
      (∃ row ∈ report.pages, row.status = .written ∧ l = d.below row.file) ∨
      t.entry? l = none ∧ l ∈ dir.way ∧
        (r.outcome digest dir t).tree.entry? l = some .directory := by
  by_cases hmanifest : l = d.below manifestFile
  · exact .inl hmanifest
  -- The manifest is put last, so any other place is as the pages left it.
  have hafter : (r.outcome digest dir t).tree.entry? l = p.tree.entry? l := by
    have hname := Location.below_ne_top d isFileName_manifestFile.ne_empty
    rw [h.tree_eq.2.2, FileTree.entry?_put hname, if_neg hmanifest]
  by_cases hpages : p.tree.entry? l = FileTree.entry? (withDirectory t dir) l
  · rcases t.entry?_makeDirectories dir l with hsame | hmade
    · exact absurd (hafter.trans (hpages.trans hsame)) hne
    · exact .inr (.inr ⟨hmade.1, hmade.2.1, hafter.trans (hpages.trans hmade.2.2)⟩)
  · obtain ⟨before, q, after, turn, hsplit, hturn, hstatus, hl⟩ :=
      exists_written_of_ne h.opens (h.renders.flat hflat) h.writes hpages
    obtain ⟨turn', hturn', hrow⟩ := h.exists_row hreport hsplit
    obtain rfl : turn' = turn := (Prod.mk.inj (hturn'.symm.trans hturn)).1
    exact .inr (.inl ⟨_, List.mem_of_getElem? hrow, hstatus, hl⟩)

/-- What a build notes of a page's file is the content of the last page that has the slug. -/
theorem get?_after_of_html? (h : Completes digest dir r t d p) (hflat : r.Flat) {slug html : String}
    (hhtml : r.html? slug = some html) :
    p.manifest.entries.get? (pageFile slug) = some (digest html) := by
  have hstate := fileState_writePages h.opens (h.renders.flat hflat)
    (flatSlug_of_html? h.renders hflat hhtml) h.writes
  have hnoted := congrArg FileState.noted hstate
  rw [FileState.noted_foldl_settle] at hnoted
  rw [html?, htmls] at hhtml
  rw [hhtml] at hnoted
  exact hnoted

end Completes

end Run

/-- **A build touches only what it reports**, whatever the output directory and its manifest hold
and whatever the pages are, as long as their files are to be in the directory. A directory in the
place of a file counts as the file being there, and no page puts one there. -/
theorem touches_only_reported (digest : String → String) (dir : Path) (hflat : r.Flat)
    (t : FileTree) (hok : (r.outcome digest dir t).result = .ok report) :
    ∃ d, r.Accounts digest dir t report d := by
  obtain ⟨toc, d, p, hc, hreport⟩ := Run.exists_completes hok
  refine ⟨d, {
    opens := hc.opens_after
    differs := fun l hne => hc.differs hflat hreport hne
    way := fun hdown l hl => hc.opens.eq_or_isWithin_of_mem_way hdown hl
    pages := hc.renders.map_page
    rows := hc.map_rows hreport
    turns := fun before q after hsplit => ?turns
    manifest := by rw [hc.find?_manifest, hc.load_after]
    noted := fun slug html hhtml => by rw [hc.load_after, hc.get?_after_of_html? hflat hhtml]
    kept := fun file hfile => ?kept }⟩
  case turns =>
    obtain ⟨turn, hturn, hrow⟩ := hc.exists_row hreport hsplit
    refine ⟨turn, _, hturn, hrow, rfl, statusOf_cases digest dir turn q, fun hfree => ?_⟩
    have hq : ∀ q' ∈ before ++ q :: after, FlatSlug q'.page.slug :=
      hsplit ▸ hc.renders.flat hflat
    exact find?_writePages_ne_directory hc.opens
      (fun q' hq' => hq q' (List.mem_append_left _ hq'))
      (hq q (List.mem_append_right _ List.mem_cons_self)) hturn hfree
  case kept =>
    rw [hc.load_after, get?_writePages_of_ne hc.writes (hc.renders.ne_pageFile hfile),
      Run.get?_start]

/-! ### A file of a page that is gone -/

/-- A manifest with nothing right: one entry is for a file of no page, the other for a page that is
not there. -/
def wrongManifest : Manifest where
  entries := .ofList [("old.html", "?"), ("index.html", "!")]

/-- An output directory with the file of a page that is not made any more. -/
def leftoverTree : FileTree :=
  ((FileTree.empty.put ⟨"out"⟩ .directory).put ⟨"out/old.html"⟩ (.file "old".toUTF8)).put
    (.below ⟨"out"⟩ manifestFile) (.file wrongManifest.text.toUTF8)

theorem opens_leftoverTree : leftoverTree.Opens outDir ⟨"out"⟩ :=
  ⟨by decide, by decide⟩

theorem load_leftoverTree :
    (Manifest.load (withDirectory leftoverTree outDir) outDir).manifest = wrongManifest := by
  rw [withDirectory_of_opens opens_leftoverTree]
  have hopen : ((FileTree.empty.put ⟨"out"⟩ .directory).put ⟨"out/old.html"⟩
      (.file "old".toUTF8)).Opens outDir ⟨"out"⟩ := ⟨by decide, by decide⟩
  exact Manifest.load_save hopen rfl
    ((Manifest.save_eq_ok_iff hopen).2 ⟨by decide, by decide, rfl⟩)

/-- The file keeps its content, and its entry in the manifest stays, wrong as it is. -/
theorem touches_only_reported_leftover :
    ∃ report, (onePage.outcome Sha256.ofText outDir leftoverTree).result = .ok report ∧
      (onePage.outcome Sha256.ofText outDir leftoverTree).tree.entry? ⟨"out/old.html"⟩ =
        some (.file "old".toUTF8) ∧
      (Manifest.load (onePage.outcome Sha256.ofText outDir leftoverTree).tree
        outDir).manifest.entries.get? "old.html" = some "?" := by
  obtain ⟨report, hok⟩ := onePage_ok_of_opens Sha256.ofText opens_leftoverTree (by decide)
    (by decide)
  obtain ⟨d, hd⟩ := touches_only_reported Sha256.ofText outDir flat_onePage leftoverTree hok
  obtain rfl : d = ⟨"out"⟩ := hd.opens.unique opens_leftoverTree
  refine ⟨report, hok, ?_, ?_⟩
  · by_contra hne
    rcases hd.differs ⟨"out/old.html"⟩ hne with hmanifest | ⟨row, hrow, -, hfile⟩ | ⟨hnone, -⟩
    · exact absurd hmanifest (by decide)
    · have hrows : (row.slug, row.file) ∈ onePage.pages.map fun q => (q.slug, pageFile q.slug) :=
        hd.rows ▸ List.mem_map_of_mem hrow
      rw [(Prod.mk.inj (List.mem_singleton.1 hrows)).2] at hfile
      exact absurd hfile (by decide)
    · exact absurd hnone (by decide)
  · have hother : ∀ q ∈ onePage.pages, "old.html" ≠ pageFile q.slug := by
      intro q hq
      rw [List.mem_singleton.1 hq]
      decide
    rw [hd.kept "old.html" hother, load_leftoverTree]
    decide

end Build

end StaticSite
