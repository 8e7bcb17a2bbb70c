import StaticSite.Proofs.Build.History
import StaticSite.Sha256

/-!
# What the cache may be trusted for

A build with the cache leaves files alone that it takes to have the right content. As long as no
build was stopped by a file, it is right about them: what is recorded is on disk or gone, and what
is gone is written again. So the cache changes what is reported, and nothing else.

## Main results

* `Build.cached_agrees` — without stopped builds, the cache makes no difference to the pages
* `Build.statuses_exact` — which pages are reported as written, and which as unchanged
-/

namespace StaticSite

namespace Build

variable {digest : String → String} {dir : Path} {d : Location} {t₀ t t' : FileTree}
  {acts : List Act} {r : Run} {p : Progress} {slug html : String} {report : SiteReport}

theorem flatSlug_of_html? (hrenders : r.Renders) (hflat : r.Flat)
    (hhtml : r.html? slug = some html) : FlatSlug slug := by
  obtain ⟨q, hq, rfl⟩ := Run.exists_html?_iff.1 ⟨html, hhtml⟩
  exact hrenders.flat hflat q hq

/-! ### A directory to try things in -/

/-- An output directory. -/
def outDir : Path := ⟨"out"⟩

/-- A run with one page. -/
def onePage : Run := .plain true [("index", "one")]

/-- The content of the page of `onePage`. -/
def onePageHtml : String :=
  (Site.frame {} onePage.pages (Run.plainPage "index" "one") (.ofHtml "one")).html

theorem rendered_onePage : onePage.rendered =
    [⟨Run.plainPage "index" "one",
      Site.frame {} onePage.pages (Run.plainPage "index" "one") (.ofHtml "one")⟩] :=
  Run.rendered_plain _ _

theorem contents_onePage : onePage.contents = [onePageHtml] := by
  rw [Run.contents, rendered_onePage]
  rfl

theorem htmls_onePage : onePage.htmls "index" = [onePageHtml] := by
  rw [Run.htmls, rendered_onePage]
  rfl

theorem html?_onePage : onePage.html? "index" = some onePageHtml := by
  rw [Run.html?, htmls_onePage]
  rfl

/-- A single content collides with nothing. -/
theorem noCollision_onePage {acts : List Act} (h : ∀ a ∈ contentsOf acts, a = onePageHtml) :
    NoCollision digest (contentsOf acts) :=
  fun a ha b hb _ => (h a ha).trans (h b hb).symm

theorem flat_onePage : onePage.Flat := by
  intro p hp
  obtain rfl : p = Run.plainPage "index" "one" := List.mem_singleton.1 hp
  exact (by decide : FlatSlug "index")

theorem noManifest_empty : NoManifest .empty outDir := by decide

/-- A first build of one page succeeds. -/
theorem onePage_ok (digest : String → String) :
    ∃ report, (onePage.outcome digest outDir .empty).result = .ok report := by
  refine Run.exists_ok (Run.renders_plain _ _) flat_onePage rfl (fun q hq => ?_)
    ⟨by decide, by decide⟩
  rw [rendered_onePage, List.mem_singleton] at hq
  subst hq
  exact ⟨by decide, by decide⟩

/-- The tree after a first build of one page. -/
def onePageTree (digest : String → String) : FileTree :=
  (onePage.outcome digest outDir .empty).tree

theorem history_onePage (digest : String → String) :
    History digest outDir .empty [.built onePage] (onePageTree digest) := by
  obtain ⟨report, hok⟩ := onePage_ok digest
  exact .next .start (.built flat_onePage hok)

theorem onePage_completes (digest : String → String) :
    ∃ d p, onePage.Completes digest outDir .empty d p := by
  obtain ⟨report, hok⟩ := onePage_ok digest
  obtain ⟨toc, d, p, hc, -⟩ := Run.exists_completes hok
  exact ⟨d, p, hc⟩

/-- The directory is open after a first build, and has a manifest. -/
theorem onePageTree_opens (digest : String → String) :
    ∃ d content, (onePageTree digest).Opens outDir d ∧
      (onePageTree digest).find? (outDir.join manifestFile) = some (.file content) := by
  obtain ⟨d, p, hc⟩ := onePage_completes digest
  exact ⟨d, _, hc.opens_after, hc.find?_manifest⟩

/-- A build of one page succeeds wherever the directory is open and no directory is in the way. -/
theorem onePage_ok_of_opens (digest : String → String) (hopen : t.Opens outDir d)
    (hindex : t.find? (outDir.join (pageFile "index")) ≠ some .directory)
    (hmanifest : t.find? (outDir.join manifestFile) ≠ some .directory) :
    ∃ report, (onePage.outcome digest outDir t).result = .ok report := by
  refine Run.exists_ok_of_opens (Run.renders_plain _ _) flat_onePage hopen (fun q hq => ?_)
    ⟨by decide, hmanifest⟩
  rw [rendered_onePage, List.mem_singleton] at hq
  subst hq
  exact ⟨by decide, hindex⟩

/-! ### Without stopped builds -/

/-- Where what is recorded is on disk or gone, a build leaves its own content in every place. -/
theorem find?_built_eq (h : History digest dir t₀ acts t) (h₀ : NoManifest t₀ dir)
    (hunstopped : Unstopped acts) (hdigest : NoCollision digest (contentsOf (.built r :: acts)))
    (hc : r.Completes digest dir t d p) (hflat : r.Flat) (hhtml : r.html? slug = some html) :
    (r.outcome digest dir t).tree.find? (dir.join (pageFile slug)) = some (.file html.toUTF8) := by
  have hslug := flatSlug_of_html? hc.renders hflat hhtml
  rw [h.find?_built h₀ hdigest hc hflat hslug hhtml]
  split
  next hkept =>
    obtain ⟨hknown, hholds, -⟩ := hkept
    have hrest : NoCollision digest (contentsOf acts) :=
      hdigest.mono fun a ha => List.mem_append_right _ ha
    rcases h.find?_of_recorded h₀ hrest hunstopped hslug (recorded_of_known hknown) with hgone | hf
    · rw [FileTree.holds, hgone] at hholds
      cases hholds
    · exact hf
  next => rfl

/-- The page of a first build is there. -/
theorem find?_onePageTree (digest : String → String) :
    (onePageTree digest).find? (outDir.join (pageFile "index")) =
      some (.file onePageHtml.toUTF8) := by
  obtain ⟨d, p, hc⟩ := onePage_completes digest
  have hdigest : NoCollision digest (contentsOf [.built onePage]) :=
    noCollision_onePage (by simp [contentsOf, contents_onePage])
  exact find?_built_eq .start noManifest_empty (by simp [Unstopped]) hdigest hc flat_onePage
    html?_onePage

/-- What a build with the cache can do, the same build without it can do as well. -/
theorem uncached_ok (h : History digest dir t₀ acts t) (h₀ : NoManifest t₀ dir)
    (hunstopped : Unstopped acts) (hdigest : NoCollision digest (contentsOf (.built r :: acts)))
    (hc : r.Completes digest dir t d p) (hflat : r.Flat) :
    ∃ report', ((r.withCache false).outcome digest dir t).result = .ok report' := by
  refine Run.exists_ok hc.renders hflat hc.made (fun q hq => ⟨hc.admits hflat hq, ?_⟩) ?_
  · obtain ⟨html, hhtml⟩ := Run.exists_html?_iff.2 ⟨q, hq, rfl⟩
    refine hc.find?_ne_directory (hc.renders.flat hflat q hq) ?_
    rw [find?_built_eq h h₀ hunstopped hdigest hc hflat hhtml]
    exact FileTree.some_file_ne_directory _
  · obtain ⟨ha, hfree, -⟩ := hc.tree_eq
    rw [(keepsOthers_writePages hc.writes).find?_manifest hc.opens] at hfree
    exact ⟨ha, hfree⟩

/-- Builds of the same pages from the same tree agree in every place but that of the manifest. -/
theorem entry?_agrees {r' : Run} {p' : Progress} (h : History digest dir t₀ acts t)
    (h₀ : NoManifest t₀ dir) (hunstopped : Unstopped acts)
    (hdigest : NoCollision digest (contentsOf (.built r :: acts)))
    (hc : r.Completes digest dir t d p) (hc' : r'.Completes digest dir t d p')
    (hsame : r'.rendered = r.rendered) (hflat : r.Flat) (hflat' : r'.Flat) {l : Location}
    (hl : l ≠ d.below manifestFile) :
    (r'.outcome digest dir t).tree.entry? l = (r.outcome digest dir t).tree.entry? l := by
  have hcontents : contentsOf (.built r' :: acts) = contentsOf (.built r :: acts) := by
    rw [contentsOf_built, contentsOf_built, Run.contents, Run.contents, hsame]
  by_cases hpage : ∃ q ∈ r.rendered, l = d.below (pageFile q.page.slug)
  · obtain ⟨q, hq, rfl⟩ := hpage
    obtain ⟨html, hhtml⟩ := Run.exists_html?_iff.2 ⟨q, hq, rfl⟩
    have hhtml' : r'.html? q.page.slug = some html := by
      rw [Run.html?, Run.htmls, hsame]
      exact hhtml
    have hname := (hc.renders.flat hflat q hq).isFileName
    have hfile := find?_built_eq h h₀ hunstopped hdigest hc hflat hhtml
    have hfile' := find?_built_eq h h₀ hunstopped (hcontents ▸ hdigest) hc' hflat' hhtml'
    rw [hc.opens_after.find?_join hname, if_pos (hc.admits hflat hq)] at hfile
    rw [hc'.opens_after.find?_join hname, if_pos (hc.admits hflat hq)] at hfile'
    rw [hfile, hfile']
  · have hpages : ∀ q ∈ r.rendered, l ≠ d.below (pageFile q.page.slug) :=
      fun q hq he => hpage ⟨q, hq, he⟩
    rw [hc.entry?_eq hflat hl hpages, hc'.entry?_eq hflat' hl (hsame ▸ hpages)]

/-- **The cache makes no difference to the pages.** After any history without stopped builds, a
build that succeeds leaves every place but that of the manifest as the same build without the cache
would, and every page's file has the content of the last page with the slug. -/
theorem cached_agrees (h : History digest dir t₀ acts t) (h₀ : NoManifest t₀ dir)
    (hunstopped : Unstopped acts) (hdigest : NoCollision digest (contentsOf (.built r :: acts)))
    (hflat : r.Flat) (hok : (r.outcome digest dir t).result = .ok report) :
    (∃ report', ((r.withCache false).outcome digest dir t).result = .ok report') ∧
      (∀ l, (r.outcome digest dir t).tree.locate (dir.join manifestFile) ≠ .ok l →
        ((r.withCache false).outcome digest dir t).tree.entry? l =
          (r.outcome digest dir t).tree.entry? l) ∧
      ∀ slug html, r.html? slug = some html →
        (r.outcome digest dir t).tree.readText (dir.join (pageFile slug)) = .ok html := by
  obtain ⟨toc, d, p, hc, -⟩ := Run.exists_completes hok
  have hok' := uncached_ok h h₀ hunstopped hdigest hc hflat
  refine ⟨hok', fun l hl => ?_, fun slug html hhtml => ?_⟩
  · obtain ⟨report', hok'⟩ := hok'
    obtain ⟨toc', d', p', hc', -⟩ := Run.exists_completes hok'
    obtain rfl : d' = d := Option.some.inj (hc'.opens.enters.symm.trans hc.opens.enters)
    refine entry?_agrees h h₀ hunstopped hdigest hc hc' rfl hflat hflat ?_
    rintro rfl
    exact hl (hc.opens_after.locate_of_admits isFileName_manifestFile hc.tree_eq.1)
  · exact FileTree.readText_eq_ok_iff.2 (find?_built_eq h h₀ hunstopped hdigest hc hflat hhtml)

/-- A page that was deleted is there again after the next build. -/
theorem cached_agrees_onePage :
    (onePage.outcome Sha256.ofText outDir
        ((onePageTree Sha256.ofText).delete (outDir.join (pageFile "index")))).tree.readText
      (outDir.join (pageFile "index")) = .ok onePageHtml := by
  obtain ⟨d, content, hopen, hmanifest⟩ := onePageTree_opens Sha256.ofText
  have hindex : FlatSlug "index" := by decide
  have hfile : (onePageTree Sha256.ofText).find? (outDir.join (pageFile "index")) ≠
      some .directory := by
    rw [find?_onePageTree]
    exact FileTree.some_file_ne_directory _
  have hdeleted : History Sha256.ofText outDir .empty [.deleted "index", .built onePage]
      ((onePageTree Sha256.ofText).delete (outDir.join (pageFile "index"))) :=
    (history_onePage Sha256.ofText).next (.deleted hindex hfile)
  have hgone : ((onePageTree Sha256.ofText).delete (outDir.join (pageFile "index"))).find?
      (outDir.join (pageFile "index")) ≠ some .directory := by
    rw [History.find?_delete hopen hindex hfile hindex, if_pos rfl]
    simp
  have hkept : ((onePageTree Sha256.ofText).delete (outDir.join (pageFile "index"))).find?
      (outDir.join manifestFile) ≠ some .directory := by
    rw [hopen.find?_delete_join isFileName_manifestFile hindex.isFileName hfile,
      if_neg (Ne.symm (pageFile_ne_manifestFile "index")), hmanifest]
    exact FileTree.some_file_ne_directory _
  obtain ⟨report, hok⟩ := onePage_ok_of_opens Sha256.ofText
    (hopen.delete_join hindex.isFileName hfile) hgone hkept
  have hdigest : NoCollision Sha256.ofText
      (contentsOf [.built onePage, .deleted "index", .built onePage]) :=
    noCollision_onePage (by simp [contentsOf, contents_onePage])
  exact (cached_agrees hdeleted noManifest_empty (by simp [Unstopped]) hdigest flat_onePage hok).2.2
    "index" onePageHtml html?_onePage

/-! ### What is reported -/

/-- The status of a page after a history: the manifest decides it, and whether the file is there. -/
theorem statusOf_start (h : History digest dir t₀ acts t) (h₀ : NoManifest t₀ dir)
    (hdigest : NoCollision digest (contentsOf (.built r :: acts))) {q : RenderedPage}
    (hq : q ∈ r.rendered) (hslug : FlatSlug q.page.slug) :
    statusOf digest dir (r.start dir (withDirectory t dir)) q =
      if r.useCache = true ∧ t.holds (dir.join (pageFile q.page.slug)) = true ∧
        recorded acts q.page.slug = some q.content.html
      then .unchanged else .written := by
  have hknown : ∀ g, r.known acts q.page.slug = some g → g ∈ contentsOf (.built r :: acts) :=
    fun g hg => List.mem_append_right _ (mem_contentsOf_of_recorded (recorded_of_known hg))
  have hhtml : q.content.html ∈ contentsOf (.built r :: acts) :=
    List.mem_append_left _ (List.mem_map_of_mem hq)
  simp only [statusOf, FileState.fresh_iff hdigest hknown hhtml (h.noted_start h₀ hslug r)]
  by_cases hk : r.known acts q.page.slug = some q.content.html
  · obtain ⟨hcache, hrec⟩ := known_eq_some_iff.1 hk
    rw [h.withDirectory_of_known hk, Run.fileState_start]
    simp only [hk, hcache, hrec, true_and, and_true]
    rfl
  · rw [if_neg fun hall => hk hall.1,
      if_neg fun hall => hk (known_eq_some_iff.2 ⟨hall.1, hall.2.2⟩)]

/-- **Which pages are reported as unchanged.** A page is when the cache is used, its file is there
and the content recorded of it is the same; a build that is repeated at once leaves the tree as it
is. -/
theorem statuses_exact (h : History digest dir t₀ acts t) (h₀ : NoManifest t₀ dir)
    (hdigest : NoCollision digest (contentsOf (.built r :: acts))) (hflat : r.Flat)
    (hnodup : (r.pages.map Page.slug).Nodup) (hok : (r.outcome digest dir t).result = .ok report) :
    r.rendered.map RenderedPage.page = r.pages ∧
    (report.pages.map fun q => (q.slug, q.status)) =
      (r.rendered.map fun q => (q.page.slug,
        if r.useCache = true ∧ t.holds (dir.join (pageFile q.page.slug)) = true ∧
          recorded acts q.page.slug = some q.content.html
        then PageStatus.unchanged else PageStatus.written)) ∧
    ∃ report', ((r.withCache true).outcome digest dir (r.outcome digest dir t).tree).result =
        .ok report' ∧
      ((r.withCache true).outcome digest dir (r.outcome digest dir t).tree).tree =
        (r.outcome digest dir t).tree ∧
      ∀ q ∈ report'.pages, q.status = .unchanged := by
  obtain ⟨toc, d, p, hc, hreport⟩ := Run.exists_completes hok
  refine ⟨hc.renders.map_page, ?_, hc.rerun hflat hnodup⟩
  have hstatuses := statuses_writePages hc.opens (hc.renders.flat hflat)
    (hc.renders.map_slug ▸ hnodup) hc.writes
  have hstart : (r.start dir (withDirectory t dir)).statuses = [] := rfl
  rw [hreport, hstatuses, hstart, List.nil_append, Run.zipWith_pageReport, List.map_map]
  refine List.map_congr_left fun q hq => ?_
  rw [← statusOf_start h h₀ hdigest hq (hc.renders.flat hflat q hq)]
  rfl

theorem recorded_onePage : recorded [.built onePage] "index" = some onePageHtml := by
  rw [recorded_built, html?_onePage, Option.some_or]

/-- A build that succeeded can be made again. -/
theorem onePage_ok_again (digest : String → String) :
    ∃ report, (onePage.outcome digest outDir (onePageTree digest)).result = .ok report := by
  obtain ⟨d, content, hopen, hmanifest⟩ := onePageTree_opens digest
  refine onePage_ok_of_opens digest hopen ?_ ?_
  · rw [find?_onePageTree]
    exact FileTree.some_file_ne_directory _
  · rw [hmanifest]
    exact FileTree.some_file_ne_directory _

/-- A build that is made again reports its page as unchanged. -/
theorem statuses_exact_onePage :
    ∃ report, (onePage.outcome Sha256.ofText outDir (onePageTree Sha256.ofText)).result =
        .ok report ∧
      (report.pages.map fun q => (q.slug, q.status)) = [("index", .unchanged)] := by
  obtain ⟨report, hok⟩ := onePage_ok_again Sha256.ofText
  have hdigest : NoCollision Sha256.ofText (contentsOf [.built onePage, .built onePage]) :=
    noCollision_onePage (by simp [contentsOf, contents_onePage])
  refine ⟨report, hok, ?_⟩
  rw [(statuses_exact (history_onePage Sha256.ofText) noManifest_empty hdigest flat_onePage
    (by decide) hok).2.1, rendered_onePage, List.map_singleton, if_pos]
  · rfl
  · exact ⟨rfl, by rw [FileTree.holds]; exact congrArg Option.isSome (find?_onePageTree _),
      recorded_onePage⟩

end Build

end StaticSite
