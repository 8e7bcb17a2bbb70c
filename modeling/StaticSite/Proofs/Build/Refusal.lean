import StaticSite.Build
import StaticSite.Proofs.Site

/-!
# Builds that cannot render

A build that cannot render every page ends before it looks at the file tree. What it says is the
first cause in the order of its work: the table of contents, and then the bodies in the order in
which the workers meet the pages, which for a single worker is the order of the page list. Once
every page is there, files are all that can still fail.

## Main results

* `Build.generateBy_of_toc_error`, `Build.generateBy_of_firstFailure` — the two ways to be refused
* `Build.generateBy_agrees` — the order of the workers decides on the error alone
* `Build.ok_or_file_error` — what can still happen to a site that could be rendered
* `Build.generate_unless_rendered` — the three cases together, with all the errors there are
-/

namespace StaticSite

namespace Build

variable {digest : String → String} {config : SiteConfig} {order pages : List Page} {dir : Path}
  {useCache : Bool} {t : FileTree} {toc : Toc}

/-- The project's identity is there whenever a site is, so a report can always be made. -/
theorem siteReport_ofToc (config : SiteConfig) (pages : List Page) (toc : Toc)
    (outputDir? : Option String) (reports : List PageReport) :
    siteReport (Site.ofToc config pages toc) outputDir? reports =
      .ok { project := config.project.name, version := config.project.version, outputDir?,
            pages := reports } := rfl

/-- Sections that are rejected end a build before the workers begin. -/
theorem generateBy_of_toc_error (order : List Page) {e : TocError}
    (h : Site.tocOf config pages = .error e) :
    generateBy digest order config pages dir useCache t =
      { tree := t, result := .error (.toc e) } := by
  rw [generateBy, Site.assemble_of_toc_error h]

/-- The first body that fails ends a build, and no later one is heard of. -/
theorem generateBy_of_firstFailure (htoc : Site.tocOf config pages = .ok toc)
    (horder : order.Perm pages) {p : Page} {cause : LinkError}
    (h : config.FirstFailure toc order p cause) :
    generateBy digest order config pages dir useCache t =
      { tree := t, result := .error (.render p.slug (.link cause)) } := by
  rw [generateBy, Site.assemble_of_toc htoc]
  simp only [(Site.renderAllBy_ofToc_eq_error_iff horder).2 ⟨p, cause, h, rfl⟩]

section Rendered

variable {rendered : List RenderedPage} {tree : FileTree}

/-- Builds that have their pages do not differ by their workers. -/
theorem generateBy_eq_generate (htoc : Site.tocOf config pages = .ok toc)
    (horder : order.Perm pages)
    (hr : (Site.ofToc config pages toc).renderAll pages = .ok rendered) :
    generateBy digest order config pages dir useCache t =
      generate digest config pages dir useCache t := by
  rw [generate, generateBy, generateBy, Site.assemble_of_toc htoc]
  simp only [(Site.renderAllBy_eq_ok_iff horder).2 hr, Site.renderAllBy_self, hr]

/-- A build that has its pages makes the directory, and if it cannot, it ends there. -/
theorem generate_of_not_made (htoc : Site.tocOf config pages = .ok toc)
    (hr : (Site.ofToc config pages toc).renderAll pages = .ok rendered) {e : FileError}
    (hmade : t.makeDirectories dir = (tree, .error e)) :
    generate digest config pages dir useCache t =
      { tree, events := danglingEvents rendered, result := .error (.file e) } := by
  rw [generate, generateBy, Site.assemble_of_toc htoc]
  simp only [Site.renderAllBy_self, hr, hmade]

/-- With the directory made, the pages are written. -/
theorem generate_of_made (htoc : Site.tocOf config pages = .ok toc)
    (hr : (Site.ofToc config pages toc).renderAll pages = .ok rendered)
    (hmade : t.makeDirectories dir = (tree, .ok ())) :
    generate digest config pages dir useCache t =
      { writeSite digest (Site.ofToc config pages toc) rendered dir useCache tree with
        events := danglingEvents rendered ++
          (writeSite digest (Site.ofToc config pages toc) rendered dir useCache tree).events } := by
  rw [generate, generateBy, Site.assemble_of_toc htoc]
  simp only [Site.renderAllBy_self, hr, hmade]

end Rendered

/-- **The workers decide on the error alone.** Whatever the order in which they meet the pages, the
tree that a build leaves is that of a single worker, and so is the report. -/
theorem generateBy_agrees (digest : String → String) (config : SiteConfig) (pages : List Page)
    (dir : Path) (useCache : Bool) (t : FileTree) (horder : order.Perm pages) :
    (generateBy digest order config pages dir useCache t).tree =
        (generate digest config pages dir useCache t).tree ∧
      ∀ report, (generateBy digest order config pages dir useCache t).result = .ok report ↔
        (generate digest config pages dir useCache t).result = .ok report := by
  cases htoc : Site.tocOf config pages with
  | error e =>
    rw [generate, generateBy_of_toc_error order htoc, generateBy_of_toc_error pages htoc]
    exact ⟨rfl, fun _ => Iff.rfl⟩
  | ok toc =>
    rcases Site.renders_or_firstFailure config toc pages with hall | hfirst
    · obtain ⟨rendered, hr⟩ := Site.exists_renderAll_ofToc_iff.2 hall
      rw [generateBy_eq_generate htoc horder hr]
      exact ⟨rfl, fun _ => Iff.rfl⟩
    · obtain ⟨p, cause, hp⟩ := (Site.exists_firstFailure_perm horder).2 hfirst
      obtain ⟨q, cause', hq⟩ := hfirst
      rw [generate, generateBy_of_firstFailure htoc horder hp,
        generateBy_of_firstFailure htoc (.refl _) hq]
      exact ⟨rfl, fun _ => ⟨nofun, nofun⟩⟩

/-! ### A single worker -/

theorem generate_of_toc_error {e : TocError} (h : Site.tocOf config pages = .error e) :
    generate digest config pages dir useCache t = { tree := t, result := .error (.toc e) } :=
  generateBy_of_toc_error pages h

theorem generate_of_firstFailure (htoc : Site.tocOf config pages = .ok toc) {p : Page}
    {cause : LinkError} (h : config.FirstFailure toc pages p cause) :
    generate digest config pages dir useCache t =
      { tree := t, result := .error (.render p.slug (.link cause)) } :=
  generateBy_of_firstFailure htoc (.refl pages) h

theorem writeSite_result (rendered : List RenderedPage) :
    (∃ report, (writeSite digest (Site.ofToc config pages toc) rendered dir useCache t).result =
      .ok report) ∨
    ∃ e, (writeSite digest (Site.ofToc config pages toc) rendered dir useCache t).result =
      .error (.file e) := by
  rw [writeSite]
  simp only
  split
  · exact .inr ⟨_, rfl⟩
  · split
    · exact .inr ⟨_, rfl⟩
    · exact .inl ⟨_, siteReport_ofToc config pages toc _ _⟩

/-- **Once every page is there, files are all that can fail.** -/
theorem ok_or_file_error (digest : String → String) (dir : Path) (useCache : Bool) (t : FileTree)
    (htoc : Site.tocOf config pages = .ok toc) (h : ∀ p ∈ pages, config.Renders toc p) :
    (∃ report, (generate digest config pages dir useCache t).result = .ok report) ∨
      ∃ e, (generate digest config pages dir useCache t).result = .error (.file e) := by
  obtain ⟨rendered, hr⟩ := Site.exists_renderAll_ofToc_iff.2 h
  rcases hmade : t.makeDirectories dir with ⟨tree, e | _⟩
  · rw [generate_of_not_made htoc hr hmade]
    exact .inr ⟨e, rfl⟩
  · rw [generate_of_made htoc hr hmade]
    exact writeSite_result rendered

/-- A check succeeds when every page is there. -/
theorem check_of_renders (h : ∀ p ∈ pages, config.Renders toc p) :
    ∃ report, (check (Site.ofToc config pages toc) pages).2 = .ok report := by
  obtain ⟨rendered, hr⟩ := Site.exists_renderAll_ofToc_iff.2 h
  rw [check, checkBy, Site.renderAllBy_self, hr]
  exact ⟨_, siteReport_ofToc config pages toc _ _⟩

/-- Every error of a build is one of three kinds. -/
theorem error_kinds {e : SiteError}
    (h : (generate digest config pages dir useCache t).result = .error e) :
    (∃ cause, e = .toc cause) ∨ (∃ p ∈ pages, ∃ cause, e = .render p.slug (.link cause)) ∨
      ∃ cause, e = .file cause := by
  cases htoc : Site.tocOf config pages with
  | error cause =>
    rw [generate_of_toc_error htoc] at h
    cases h
    exact .inl ⟨cause, rfl⟩
  | ok toc =>
    rcases Site.renders_or_firstFailure config toc pages with hall | ⟨p, cause, hfirst⟩
    · rcases ok_or_file_error digest dir useCache t htoc hall with ⟨report, hok⟩ | ⟨cause, he⟩
      · rw [hok] at h
        cases h
      · rw [he] at h
        cases h
        exact .inr (.inr ⟨cause, rfl⟩)
    · rw [generate_of_firstFailure htoc hfirst] at h
      cases h
      obtain ⟨before, after, rfl, -, -⟩ := hfirst
      exact .inr (.inl ⟨p, by simp, cause, rfl⟩)

/-- **A build that cannot render changes nothing and names the first cause.** A build that can
render fails for files only, and a check of the same site succeeds. The last clause lists all the
errors there are, whatever the tree holds. -/
theorem generate_unless_rendered (digest : String → String) (config : SiteConfig)
    (pages : List Page) (dir : Path) (useCache : Bool) (t : FileTree) :
    (∀ e, Site.tocOf config pages = .error e →
      generate digest config pages dir useCache t = { tree := t, result := .error (.toc e) }) ∧
    (∀ toc, Site.tocOf config pages = .ok toc →
      (∀ p cause, config.FirstFailure toc pages p cause →
        generate digest config pages dir useCache t =
          { tree := t, result := .error (.render p.slug (.link cause)) }) ∧
      ((∃ p ∈ pages, ¬config.Renders toc p) → ∃ p cause, config.FirstFailure toc pages p cause) ∧
      ((∀ p ∈ pages, config.Renders toc p) →
        ((∃ report, (generate digest config pages dir useCache t).result = .ok report) ∨
          ∃ e, (generate digest config pages dir useCache t).result = .error (.file e)) ∧
        ∃ site report, Site.assemble config pages = .ok site ∧
          (check site pages).2 = .ok report)) ∧
    ∀ e, (generate digest config pages dir useCache t).result = .error e →
      (∃ cause, e = .toc cause) ∨ (∃ p ∈ pages, ∃ cause, e = .render p.slug (.link cause)) ∨
        ∃ cause, e = .file cause := by
  refine ⟨fun e he => generate_of_toc_error he, fun toc htoc => ⟨?_, ?_, ?_⟩,
    fun e he => error_kinds he⟩
  · exact fun p cause hfirst => generate_of_firstFailure htoc hfirst
  · exact Site.exists_firstFailure_iff.2
  · intro hall
    obtain ⟨report, hcheck⟩ := check_of_renders hall
    exact ⟨ok_or_file_error digest dir useCache t htoc hall, _, report, Site.assemble_of_toc htoc,
      hcheck⟩

end Build

end StaticSite
