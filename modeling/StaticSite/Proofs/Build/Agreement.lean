import StaticSite.Proofs.Build.Cache

/-!
# Building, checking, and rendering a page alone

There are three ways to the pages of a configuration. A build writes them, a check renders all of
them and touches nothing, and a single page can be asked for by its slug. This module says that they
agree: on the pages when all goes well, and on failing when the pages cannot be rendered.

## What depends on the workers

If several pages fail, a build and a check of the same pages may name different ones, because each
reports the failure that its workers met first. With the same order, as for single workers, the
error is the same; and whichever page is named, its error is the one of the page alone.

## What the agreement rests on

A build with the cache does not write every page. A file that it leaves alone holds the right
content only if the manifest is true of it, so this is a hypothesis here: `ManifestMatches`. Builds
establish it (`History.manifestMatches`), and nothing is asked about files without an entry.

A digest stands for a content only as far as it does not collide, here with what a file holds
already: `Run.ToldApart`.

## Main results

* `Run.Completes.result_eq` — what a successful run reports
* `Run.Completes.readText_eq` — what the files of a successful run hold
* `Build.checkSiteBy_eq_error_iff_outcomeBy` — a check fails exactly where a build is refused
* `Build.exists_checkSiteBy_iff` — a check succeeds exactly when the body of every page does
* `Build.checkSiteBy_eq_error_iff`, `Build.exists_checkSiteBy_eq_error_iff` — how a check can fail
* `Build.checkSiteBy_eq_error_iff_checkSite` — the same failure with a single worker
* `Build.three_ways_agree` — all of it together
-/

namespace StaticSite

/-- The report of a check that finds the same pages. -/
def SiteReport.checked (r : SiteReport) : SiteReport :=
  { r with outputDir? := none, pages := r.pages.map fun q => { q with status := .checked } }

namespace Build

/-- Assemble a site and check it. Workers meet the pages in the order `order`. -/
def checkSiteBy (order : List Page) (config : SiteConfig) (pages : List Page) :
    Except SiteError SiteReport :=
  match Site.assemble config pages with
  | .error e => .error e
  | .ok site => (checkBy order site pages).2

/-- Assemble a site and check it with a single worker. -/
def checkSite (config : SiteConfig) (pages : List Page) : Except SiteError SiteReport :=
  checkSiteBy pages config pages

/-- What the manifest has for the file is the digest of what the file holds, if it is there. -/
def FileState.Matches (digest : String → String) (s : FileState) : Prop :=
  ∀ dg e, s.noted = some dg → s.held = some e →
    ∃ text : String, e = .file text.toUTF8 ∧ digest text = dg

/-- The manifest's entries match the files on disk. Only the files of pages are asked about; as for
`NoManifest`, they are looked for in the tree in which the directory has been made. -/
def ManifestMatches (digest : String → String) (t : FileTree) (dir : Path) : Prop :=
  ∀ slug, FlatSlug slug → (fileState (withDirectory t dir) dir slug).Matches digest

/-- The digest tells the content of every page from another text that its file holds before the
run. -/
def Run.ToldApart (digest : String → String) (dir : Path) (r : Run) (t : FileTree) : Prop :=
  ∀ q ∈ r.rendered, ∀ text,
    (withDirectory t dir).readText (dir.join (pageFile q.page.slug)) = .ok text →
      digest text = digest q.content.html → text = q.content.html

variable {digest : String → String} {dir : Path} {d : Location} {t₀ t : FileTree}
  {acts : List Act} {r : Run} {p : Progress} {slug : String} {toc : Toc} {report : SiteReport}

/-- Builds that are not stopped leave a manifest that is true of the files. -/
theorem History.manifestMatches (h : History digest dir t₀ acts t) (h₀ : NoManifest t₀ dir)
    (hdigest : NoCollision digest (contentsOf acts)) (hunstopped : Unstopped acts) :
    ManifestMatches digest t dir := by
  intro slug hslug dg e hnoted hheld
  rw [h.noted_eq h₀ hslug, Option.map_eq_some_iff] at hnoted
  obtain ⟨html, hrec, rfl⟩ := hnoted
  obtain ⟨d, hopen⟩ := h.opens hrec
  rw [fileState, withDirectory_of_opens hopen] at hheld
  rcases h.find?_of_recorded h₀ hdigest hunstopped hslug hrec with hgone | hfile
  · rw [hgone] at hheld
    cases hheld
  · rw [hfile] at hheld
    exact ⟨html, (Option.some.inj hheld).symm, rfl⟩

/-! ### What a successful run reports and writes -/

namespace Run.Completes

/-- **What a successful run reports**, and the table of contents that its pages were rendered
with. -/
theorem result_eq (h : r.Completes digest dir t d p) (hflat : r.Flat)
    (hnodup : (r.pages.map Page.slug).Nodup) :
    ∃ toc, Site.tocOf r.config r.pages = .ok toc ∧
      (Site.ofToc r.config r.pages toc).renderAll r.pages = .ok r.rendered ∧
      (r.outcome digest dir t).result = .ok {
        project := r.config.project.name
        version := r.config.project.version
        outputDir? := some dir.text
        pages := r.rendered.map fun q =>
          pageReport toc q (statusOf digest dir (r.start dir (withDirectory t dir)) q) } := by
  obtain ⟨toc, htoc, hr⟩ := h.renders
  have hstatuses : p.statuses =
      r.rendered.map (statusOf digest dir (r.start dir (withDirectory t dir))) :=
    statuses_writePages h.opens (h.renders.flat hflat) (h.renders.map_slug ▸ hnodup) h.writes
  refine ⟨toc, htoc, hr, ?_⟩
  obtain ⟨p', written, hw, hend⟩ := outcome_of_made digest r htoc hr h.made
  obtain ⟨rfl, rfl⟩ := Prod.mk.inj (hw.symm.trans h.writes)
  rcases hend with ⟨e, hno | ⟨-, hno⟩, -⟩ | ⟨-, -, hok⟩
  · cases hno
  · rw [h.saves] at hno
    cases hno
  · rw [hok, hstatuses, zipWith_pageReport]

/-- **What the files of a successful run hold.** A file that was left alone had the digest of the
page, and by the manifest this is the digest of what it holds. -/
theorem readText_eq (h : r.Completes digest dir t d p) (hflat : r.Flat)
    (hnodup : (r.pages.map Page.slug).Nodup) (hmatches : ManifestMatches digest t dir)
    (hapart : r.ToldApart digest dir t) {q : RenderedPage} (hq : q ∈ r.rendered) :
    (r.outcome digest dir t).tree.readText (dir.join (pageFile q.page.slug)) =
      .ok q.content.html := by
  have hslug : FlatSlug q.page.slug := h.renders.flat hflat q hq
  have hheld : ((r.start dir (withDirectory t dir)).fileState dir q.page.slug).settle digest
      q.content.html = fileState (r.outcome digest dir t).tree dir q.page.slug := by
    rw [h.fileState_eq hflat hslug, htmls, htmlsOf_of_nodup (h.renders.map_slug ▸ hnodup) hq]
    rfl
  rw [FileTree.readText_eq_ok_iff]
  refine (congrArg FileState.held hheld).symm.trans ?_
  rw [FileState.settle]
  split
  next hfresh =>
    obtain ⟨hnoted, hsome⟩ := hfresh
    obtain ⟨e, he⟩ := Option.isSome_iff_exists.1 hsome
    rw [fileState_start] at hnoted he ⊢
    obtain ⟨-, hentry⟩ := Option.ite_none_right_eq_some.1 hnoted
    obtain ⟨text, rfl, htext⟩ := hmatches _ hslug _ e hentry he
    have hread : (withDirectory t dir).readText (dir.join (pageFile q.page.slug)) = .ok text :=
      FileTree.readText_eq_ok_iff.2 he
    rw [← hapart q hq text hread htext]
    exact he
  next => rfl

end Run.Completes

/-! ### Checks -/

variable {config : SiteConfig} {order order' pages : List Page}

/-- Sections that are rejected end a check before the workers begin. -/
theorem checkSiteBy_of_toc_error (order : List Page) {e : TocError}
    (h : Site.tocOf config pages = .error e) :
    checkSiteBy order config pages = .error (.toc e) := by
  rw [checkSiteBy, Site.assemble_of_toc_error h]

/-- The first body that fails ends a check. -/
theorem checkSiteBy_of_firstFailure (htoc : Site.tocOf config pages = .ok toc)
    (horder : order.Perm pages) {p : Page} {cause : LinkError}
    (h : config.FirstFailure toc order p cause) :
    checkSiteBy order config pages = .error (.render p.slug (.link cause)) := by
  rw [checkSiteBy, Site.assemble_of_toc htoc]
  simp only [checkBy, (Site.renderAllBy_ofToc_eq_error_iff horder).2 ⟨p, cause, h, rfl⟩]

/-- A check of pages that can be rendered reports them in page order. -/
theorem checkSiteBy_of_renderAll (htoc : Site.tocOf config pages = .ok toc)
    (horder : order.Perm pages) {rendered : List RenderedPage}
    (hr : (Site.ofToc config pages toc).renderAll pages = .ok rendered) :
    checkSiteBy order config pages = .ok {
      project := config.project.name
      version := config.project.version
      pages := rendered.map fun q => pageReport toc q .checked } := by
  rw [checkSiteBy, Site.assemble_of_toc htoc]
  simp only [checkBy, (Site.renderAllBy_eq_ok_iff horder).2 hr]
  exact siteReport_ofToc config pages toc _ _

/-- With a table of contents, a check succeeds exactly when every body does. -/
theorem exists_checkSiteBy_iff (htoc : Site.tocOf config pages = .ok toc)
    (horder : order.Perm pages) :
    (∃ report, checkSiteBy order config pages = .ok report) ↔
      ∀ p ∈ pages, config.Renders toc p := by
  constructor
  · rintro ⟨report, hok⟩
    refine (Site.renders_or_firstFailure config toc pages).resolve_right fun hfirst => ?_
    obtain ⟨p, cause, hp⟩ := (Site.exists_firstFailure_perm horder).2 hfirst
    rw [checkSiteBy_of_firstFailure htoc horder hp] at hok
    cases hok
  · intro hall
    obtain ⟨rendered, hr⟩ := Site.exists_renderAll_ofToc_iff.2 hall
    exact ⟨_, checkSiteBy_of_renderAll htoc horder hr⟩

/-- **How a check fails**: by its sections, or by the body that is the first to fail in the order of
the workers. -/
theorem checkSiteBy_eq_error_iff (horder : order.Perm pages) {e : SiteError} :
    checkSiteBy order config pages = .error e ↔
      (∃ cause, Site.tocOf config pages = .error cause ∧ e = .toc cause) ∨
        ∃ toc p cause, Site.tocOf config pages = .ok toc ∧ config.FirstFailure toc order p cause ∧
          e = .render p.slug (.link cause) := by
  constructor
  · intro h
    cases htoc : Site.tocOf config pages with
    | error cause =>
      rw [checkSiteBy_of_toc_error order htoc] at h
      exact .inl ⟨cause, rfl, (Except.error.inj h).symm⟩
    | ok toc =>
      rcases Site.renders_or_firstFailure config toc pages with hall | hfirst
      · obtain ⟨report, hok⟩ := (exists_checkSiteBy_iff htoc horder).2 hall
        rw [hok] at h
        cases h
      · obtain ⟨p, cause, hp⟩ := (Site.exists_firstFailure_perm horder).2 hfirst
        rw [checkSiteBy_of_firstFailure htoc horder hp] at h
        exact .inr ⟨toc, p, cause, rfl, hp, (Except.error.inj h).symm⟩
  · rintro (⟨cause, htoc, rfl⟩ | ⟨toc, p, cause, htoc, hfirst, rfl⟩)
    · exact checkSiteBy_of_toc_error order htoc
    · exact checkSiteBy_of_firstFailure htoc horder hfirst

/-- A check fails, whatever the workers do, when there is no table of contents or a body fails. -/
theorem exists_checkSiteBy_error_iff (horder : order.Perm pages) :
    (∃ e, checkSiteBy order config pages = .error e) ↔
      ∀ toc, Site.tocOf config pages = .ok toc → ∃ p ∈ pages, ¬config.Renders toc p := by
  cases htoc : Site.tocOf config pages with
  | error cause => exact ⟨fun _ => nofun, fun _ => ⟨_, checkSiteBy_of_toc_error order htoc⟩⟩
  | ok toc =>
    constructor
    · rintro ⟨e, he⟩ _ ⟨⟩
      obtain ⟨_, htoc', -⟩ | ⟨_, p, cause, htoc', hp, -⟩ := (checkSiteBy_eq_error_iff horder).1 he
      · rw [htoc] at htoc'
        cases htoc'
      · obtain rfl := Except.ok.inj (htoc.symm.trans htoc')
        exact Site.exists_firstFailure_iff.1
          ((Site.exists_firstFailure_perm horder).1 ⟨p, cause, hp⟩)
    · intro hall
      obtain ⟨p, cause, hp⟩ := (Site.exists_firstFailure_perm horder).2
        (Site.exists_firstFailure_iff.2 (hall toc rfl))
      exact ⟨_, checkSiteBy_of_firstFailure htoc horder hp⟩

/-- **Workers fail as a single worker does** to whom the pages are given in the order in which they
meet them. -/
theorem checkSiteBy_eq_error_iff_checkSite (htoc : Site.tocOf config pages = .ok toc)
    (horder : order.Perm pages) {e : SiteError} :
    checkSiteBy order config pages = .error e ↔ checkSite config order = .error e := by
  rw [checkSite, checkSiteBy_eq_error_iff horder, checkSiteBy_eq_error_iff (.refl order), htoc,
    Site.tocOf_of_perm htoc horder]

/-- **Any failing page can be the one that a check names.** -/
theorem exists_checkSiteBy_eq_error_iff (htoc : Site.tocOf config pages = .ok toc)
    {e : SiteError} :
    (∃ order, order.Perm pages ∧ checkSiteBy order config pages = .error e) ↔
      ∃ p ∈ pages, ∃ cause, p.body (config.pageLinks toc p) = .error cause ∧
        e = .render p.slug (.link cause) := by
  have hrender : ∀ order : List Page, order.Perm pages →
      (checkSiteBy order config pages = .error e ↔
        (Site.ofToc config pages toc).renderAllBy order pages = .error e) := by
    intro order horder
    rw [checkSiteBy_eq_error_iff horder, Site.renderAllBy_ofToc_eq_error_iff horder, htoc]
    simp
  calc (∃ order, order.Perm pages ∧ checkSiteBy order config pages = .error e)
    _ ↔ ∃ order, order.Perm pages ∧
        (Site.ofToc config pages toc).renderAllBy order pages = .error e :=
      exists_congr fun order => and_congr_right fun horder => hrender order horder
    _ ↔ ∃ p ∈ pages, (Site.ofToc config pages toc).renderPage p = .error e :=
      Site.exists_renderAllBy_eq_error_iff
    _ ↔ _ := exists_congr fun p => and_congr_right fun _ => Site.renderPage_eq_error_iff

/-! ### The same pages -/

/-- Each page that was rendered among all is the one that is rendered alone. -/
theorem renderOne_rendered (htoc : Site.tocOf r.config r.pages = .ok toc)
    (hr : (Site.ofToc r.config r.pages toc).renderAll r.pages = .ok r.rendered)
    (hnodup : (r.pages.map Page.slug).Nodup) {q : RenderedPage} (hq : q ∈ r.rendered) :
    Site.renderOne r.config r.pages q.page.slug = .ok q.content := by
  obtain ⟨hmap, hall⟩ := Site.renderAll_eq_ok_iff.1 hr
  have hmem : q.page ∈ r.pages := hmap ▸ List.mem_map_of_mem hq
  rw [Site.renderOne_of_mem htoc hnodup hmem, hall q hq]

/-! ### The same error -/

/-- A run whose pages are there is not refused. -/
theorem error_file_of_renders {e : SiteError} (htoc : Site.tocOf r.config r.pages = .ok toc)
    (horder : order.Perm r.pages) (hall : ∀ p ∈ r.pages, r.config.Renders toc p)
    (h : (r.outcomeBy digest dir order t).result = .error e) : ∃ cause, e = .file cause := by
  obtain ⟨rendered, hr⟩ := Site.exists_renderAll_ofToc_iff.2 hall
  rw [Run.outcomeBy, generateBy_eq_generate htoc horder hr] at h
  rcases ok_or_file_error digest dir r.useCache t htoc hall with ⟨report, hok⟩ | ⟨cause, he⟩
  · rw [hok] at h
    cases h
  · rw [he] at h
    exact ⟨cause, (Except.error.inj h).symm⟩

/-- **A check fails exactly where a build is refused**, and with the same error if the workers meet
the pages in the same order: a build that fails otherwise was stopped by a file. -/
theorem checkSiteBy_eq_error_iff_outcomeBy (digest : String → String) (dir : Path) (r : Run)
    (t : FileTree) (horder : order.Perm r.pages) (e : SiteError) :
    checkSiteBy order r.config r.pages = .error e ↔
      (r.outcomeBy digest dir order t).result = .error e ∧ ∀ cause, e ≠ .file cause := by
  -- a refusal is never a file's, so in the first two cases nothing is left but the error
  have hrefused : ∀ e' : SiteError, (∀ cause, e' ≠ .file cause) →
      ((Except.error e' : Except SiteError SiteReport) = .error e ↔
        (Except.error e' : Except SiteError SiteReport) = .error e ∧ ∀ cause, e ≠ .file cause) := by
    intro e' hfile
    refine ⟨fun h => ⟨h, ?_⟩, And.left⟩
    exact Except.error.inj h ▸ hfile
  cases htoc : Site.tocOf r.config r.pages with
  | error cause =>
    rw [checkSiteBy_of_toc_error order htoc, Run.outcomeBy, generateBy_of_toc_error order htoc]
    exact hrefused _ nofun
  | ok toc =>
    rcases Site.renders_or_firstFailure r.config toc r.pages with hall | hfirst
    · obtain ⟨report, hok⟩ := (exists_checkSiteBy_iff htoc horder).2 hall
      rw [hok]
      refine ⟨nofun, fun ⟨herror, hfile⟩ => ?_⟩
      obtain ⟨cause, he⟩ := error_file_of_renders htoc horder hall herror
      exact absurd he (hfile cause)
    · obtain ⟨p, cause, hp⟩ := (Site.exists_firstFailure_perm horder).2 hfirst
      rw [checkSiteBy_of_firstFailure htoc horder hp, Run.outcomeBy,
        generateBy_of_firstFailure htoc horder hp]
      exact hrefused _ nofun

/-- The page that an error names fails with the same error when it is rendered alone. -/
theorem renderOne_of_checkSiteBy_error {page : String} {cause : RenderError}
    (hnodup : (pages.map Page.slug).Nodup) (horder : order.Perm pages)
    (h : checkSiteBy order config pages = .error (.render page cause)) :
    Site.renderOne config pages page = .error (.render page cause) := by
  obtain ⟨_, -, ⟨⟩⟩ | ⟨toc, p, _, htoc, ⟨before, after, rfl, -, hcause⟩, ⟨⟩⟩ :=
    (checkSiteBy_eq_error_iff horder).1 h
  have hmem : p ∈ pages := horder.subset (by simp)
  rw [Site.renderOne_of_mem htoc hnodup hmem]
  exact Site.renderPage_eq_error_iff.2 ⟨_, hcause, rfl⟩

/-- Two checks fail with the same error, or they name different pages. -/
theorem eq_or_ne_page_of_checkSiteBy_error {e e' : SiteError}
    (hnodup : (pages.map Page.slug).Nodup) (horder : order.Perm pages)
    (horder' : order'.Perm pages) (h : checkSiteBy order config pages = .error e)
    (h' : checkSiteBy order' config pages = .error e') :
    e = e' ∨ ∃ page cause page' cause', page ≠ page' ∧ e = .render page cause ∧
      e' = .render page' cause' := by
  rcases (checkSiteBy_eq_error_iff horder).1 h with
    ⟨cause, htoc, rfl⟩ | ⟨toc, p, cause, htoc, -, rfl⟩
  · rw [checkSiteBy_of_toc_error order' htoc] at h'
    exact .inl (Except.error.inj h')
  · obtain ⟨_, htoc', -⟩ | ⟨_, p', cause', -, -, rfl⟩ := (checkSiteBy_eq_error_iff horder').1 h'
    · rw [htoc] at htoc'
      cases htoc'
    · by_cases hpage : p.slug = p'.slug
      · have hone := renderOne_of_checkSiteBy_error hnodup horder h
        rw [hpage, renderOne_of_checkSiteBy_error hnodup horder' h'] at hone
        rw [hpage]
        exact .inl (Except.error.inj hone).symm
      · exact .inr ⟨_, _, _, _, hpage, rfl, rfl⟩

/-- **Building, checking and rendering a page alone agree**, whatever the orders in which the
workers of the build and of the check meet the pages. After a build that succeeds, a check reports
the same pages, only as checked, and each page alone is what its file holds, with the number of
bytes that was reported. A check fails exactly when a build fails before it writes: with the same
error if the workers meet the pages in the same order, and otherwise with the same error unless the
two name different pages. The page that an error names fails with the same error when it is rendered
alone. -/
theorem three_ways_agree (digest : String → String) (dir : Path) (r : Run) (t : FileTree)
    (hnodup : (r.pages.map Page.slug).Nodup) (horder : order.Perm r.pages)
    (horder' : order'.Perm r.pages) :
    (r.Flat → ManifestMatches digest t dir → r.ToldApart digest dir t →
      ∀ report, (r.outcomeBy digest dir order t).result = .ok report →
        checkSiteBy order' r.config r.pages = .ok report.checked ∧
        report.outputDir? = some dir.text ∧
        report.pages.map PageReport.slug = r.pages.map Page.slug ∧
        ∀ q ∈ report.pages, ∃ content,
          Site.renderOne r.config r.pages q.slug = .ok content ∧
          (r.outcomeBy digest dir order t).tree.readText (dir.join (pageFile q.slug)) =
            .ok content.html ∧
          q.bytes = content.html.utf8ByteSize) ∧
    ((∃ e, checkSiteBy order' r.config r.pages = .error e) ↔
      ∃ e, (r.outcomeBy digest dir order t).result = .error e ∧ ∀ cause, e ≠ .file cause) ∧
    (∀ e, checkSiteBy order r.config r.pages = .error e ↔
      (r.outcomeBy digest dir order t).result = .error e ∧ ∀ cause, e ≠ .file cause) ∧
    (∀ e e', checkSiteBy order' r.config r.pages = .error e →
      (r.outcomeBy digest dir order t).result = .error e' →
        e = e' ∨ ∃ page cause page' cause', page ≠ page' ∧ e = .render page cause ∧
          e' = .render page' cause') ∧
    ∀ page cause, checkSiteBy order' r.config r.pages = .error (.render page cause) ∨
        (r.outcomeBy digest dir order t).result = .error (.render page cause) →
      Site.renderOne r.config r.pages page = .error (.render page cause) := by
  have hsame := checkSiteBy_eq_error_iff_outcomeBy digest dir r t horder
  have hboth : (∃ e, checkSiteBy order' r.config r.pages = .error e) ↔
      ∃ e, (r.outcomeBy digest dir order t).result = .error e ∧ ∀ cause, e ≠ .file cause :=
    ((exists_checkSiteBy_error_iff horder').trans (exists_checkSiteBy_error_iff horder).symm).trans
      (exists_congr hsame)
  refine ⟨fun hflat hmatches hapart report hok => ?_, hboth, hsame, fun e e' he he' => ?_,
    fun page cause h => ?_⟩
  · obtain ⟨htree, hreport⟩ := generateBy_agrees digest r.config r.pages dir r.useCache t horder
    have hsingle : (r.outcome digest dir t).result = .ok report := (hreport report).1 hok
    obtain ⟨-, d, p, hc, -⟩ := Run.exists_completes hsingle
    obtain ⟨toc, htoc, hr, hresult⟩ := hc.result_eq hflat hnodup
    obtain rfl := Except.ok.inj (hsingle.symm.trans hresult)
    refine ⟨?_, rfl, ?_, fun q hq => ?_⟩
    · rw [checkSiteBy_of_renderAll htoc horder' hr, SiteReport.checked, List.map_map]
      rfl
    · rw [← hc.renders.map_slug, List.map_map]
      rfl
    · obtain ⟨q', hq', rfl⟩ := List.mem_map.1 hq
      refine ⟨q'.content, renderOne_rendered htoc hr hnodup hq', ?_, rfl⟩
      rw [Run.outcomeBy, htree]
      exact hc.readText_eq hflat hnodup hmatches hapart hq'
  · obtain ⟨e'', he'', hfile⟩ := hboth.1 ⟨e, he⟩
    obtain rfl := Except.error.inj (he'.symm.trans he'')
    exact eq_or_ne_page_of_checkSiteBy_error hnodup horder' horder he ((hsame e').2 ⟨he', hfile⟩)
  · rcases h with h | h
    · exact renderOne_of_checkSiteBy_error hnodup horder' h
    · exact renderOne_of_checkSiteBy_error hnodup horder ((hsame _).2 ⟨h, nofun⟩)

/-- A build that is made again writes nothing, and what it leaves is what a check and the page alone
say. -/
theorem three_ways_agree_onePage :
    ∃ report, (onePage.outcome Sha256.ofText outDir (onePageTree Sha256.ofText)).result =
        .ok report ∧
      checkSite onePage.config onePage.pages = .ok report.checked ∧
      ∃ content, Site.renderOne onePage.config onePage.pages "index" = .ok content ∧
        (onePage.outcome Sha256.ofText outDir (onePageTree Sha256.ofText)).tree.readText
          (outDir.join (pageFile "index")) = .ok content.html := by
  obtain ⟨report, hok⟩ := onePage_ok_again Sha256.ofText
  obtain ⟨d, content, hopen, -⟩ := onePageTree_opens Sha256.ofText
  have hdigest : NoCollision Sha256.ofText (contentsOf [.built onePage]) :=
    noCollision_onePage (by simp [contentsOf, contents_onePage])
  have hmatches : ManifestMatches Sha256.ofText (onePageTree Sha256.ofText) outDir :=
    (history_onePage Sha256.ofText).manifestMatches noManifest_empty hdigest (by simp [Unstopped])
  have hapart : onePage.ToldApart Sha256.ofText outDir (onePageTree Sha256.ofText) := by
    intro q hq text hread _
    rw [rendered_onePage, List.mem_singleton] at hq
    subst hq
    rw [withDirectory_of_opens hopen] at hread
    have hfile := FileTree.readText_eq_ok_iff.2 (find?_onePageTree Sha256.ofText)
    exact Except.ok.inj (hread.symm.trans hfile)
  obtain ⟨hagree, -⟩ := three_ways_agree Sha256.ofText outDir onePage (onePageTree Sha256.ofText)
    (by decide) (.refl _) (.refl _)
  obtain ⟨hcheck, -, hslugs, hpages⟩ := hagree flat_onePage hmatches hapart report hok
  obtain ⟨q, hq, hslug⟩ : ∃ q ∈ report.pages, q.slug = "index" := by
    have hmem : "index" ∈ report.pages.map PageReport.slug := by
      rw [hslugs]
      exact List.mem_singleton.2 rfl
    exact List.mem_map.1 hmem
  obtain ⟨content, hone, hread, -⟩ := hpages q hq
  rw [hslug] at hone hread
  exact ⟨report, hok, hcheck, content, hone, hread⟩

/-! ### Two pages that fail -/

/-- A page with nothing but a link to a section. -/
def referringPage (slug id : String) : Page where
  slug := slug
  title := slug
  body := fun l => (l.internal id).map fun a => .ofHtml a.render

/-- A run with two pages that refer to sections, and nobody declares them. -/
def undeclared : Run where
  config := {}
  pages := [referringPage "index" "license", referringPage "download" "links"]
  useCache := true

/-- **A check and a build need not fail with the same error**: the workers of the check may meet
another page first. -/
theorem not_always_the_same_error :
    ¬∀ (digest : String → String) (dir : Path) (r : Run) (t : FileTree) (order order' : List Page),
      (r.pages.map Page.slug).Nodup → order.Perm r.pages → order'.Perm r.pages → ∀ e,
        (checkSiteBy order' r.config r.pages = .error e ↔
          (r.outcomeBy digest dir order t).result = .error e ∧ ∀ cause, e ≠ .file cause) := by
  intro h
  have htoc : Site.tocOf undeclared.config undeclared.pages = .ok {} := rfl
  have horder : undeclared.pages.reverse.Perm undeclared.pages := List.reverse_perm _
  have hindex : undeclared.config.FirstFailure {} undeclared.pages
      (referringPage "index" "license") (.unknownSection "license") :=
    ⟨[], _, rfl, List.forall_mem_nil _, rfl⟩
  have hdownload : undeclared.config.FirstFailure {} undeclared.pages.reverse
      (referringPage "download" "links") (.unknownSection "links") :=
    ⟨[], _, rfl, List.forall_mem_nil _, rfl⟩
  have hcheck := checkSiteBy_of_firstFailure htoc horder hdownload
  obtain ⟨hbuild, -⟩ := (h Sha256.ofText outDir undeclared .empty _ _ (by decide) (.refl _) horder
    _).1 hcheck
  rw [Run.outcomeBy, generateBy_of_firstFailure htoc (.refl _) hindex] at hbuild
  exact absurd hbuild (by decide)

end Build

end StaticSite
