import StaticSite.Proofs.Toc
import StaticSite.Site

/-!
# Assembling and rendering a site

A site is assembled as soon as the table of contents is, because the holder of the project's
identity is fresh. What is left that can fail is the body of a page, so rendering is described by
the bodies alone: `pageLinks` are the links that a body gets, and a page fails with what its body
fails with.

## Main results

* `Site.assemble_of_toc` — only the table of contents stands between a configuration and its site
* `Site.declared_of_pageOf` — a registered section was declared by a page or by the configuration
* `Site.pageOf_ne_none_iff` — and every declared section is registered
* `Site.renderPage_eq` — a page is rendered as its body is, and fails as its body does
* `Site.renderAll_eq_ok_iff`, `Site.renderAll_eq_error_iff` — all pages, or the first failure
* `Site.renderAll_ofToc_eq_error_iff`, `Site.exists_renderAll_ofToc_iff` — the same by the bodies
* `Site.renderAllBy_eq_ok_iff`, `Site.renderAllBy_eq_error_iff` — what workers have to do with it
* `Site.exists_renderAllBy_eq_error_iff` — any failing page can be the one that is reported
* `Site.renderOne_of_mem` — with distinct slugs, a page is found by its slug and rendered alone
-/

namespace StaticSite

/-- The links that the body of a page is rendered with. -/
def SiteConfig.pageLinks (config : SiteConfig) (toc : Toc) (p : Page) : Links :=
  { project := config.project, policy := config.links, toc, currentPage := p.slug }

/-- The body of a page yields a fragment. -/
def SiteConfig.Renders (config : SiteConfig) (toc : Toc) (p : Page) : Prop :=
  ∃ inner, p.body (config.pageLinks toc p) = .ok inner

/-- The page is the first of the list whose body fails, with the cause it fails with. -/
def SiteConfig.FirstFailure (config : SiteConfig) (toc : Toc) (pages : List Page) (p : Page)
    (cause : LinkError) : Prop :=
  ∃ before after, pages = before ++ p :: after ∧ (∀ q ∈ before, config.Renders toc q) ∧
    p.body (config.pageLinks toc p) = .error cause

namespace Site

variable {config : SiteConfig} {order pages : List Page} {site : Site} {toc : Toc}

/-- The site that a configuration and a table of contents make. -/
def ofToc (config : SiteConfig) (pages : List Page) (toc : Toc) : Site :=
  ⟨{ holder := .holding config.project, site := config.site, policy := config.links, toc,
     nav := pages.map Page.navEntry }⟩

theorem assemble_of_toc (h : tocOf config pages = .ok toc) :
    assemble config pages = .ok (ofToc config pages toc) := by
  rw [assemble, h]
  rfl

theorem assemble_of_toc_error {e : TocError} (h : tocOf config pages = .error e) :
    assemble config pages = .error (.toc e) := by
  rw [assemble, h]

/-- A site is what its table of contents makes it. -/
theorem assemble_eq_ok_iff :
    assemble config pages = .ok site ↔
      ∃ toc, tocOf config pages = .ok toc ∧ site = ofToc config pages toc := by
  cases h : tocOf config pages with
  | error e => simp [assemble_of_toc_error h]
  | ok toc => simp [assemble_of_toc h, eq_comm]

/-- The table of contents does not depend on the order of the pages. -/
theorem tocOf_of_perm (h : tocOf config pages = .ok toc) (horder : order.Perm pages) :
    tocOf config order = .ok toc :=
  Toc.build_of_perm h (((horder.map _).flatMap_right _).append_right _)

/-- A registered section is held by a page of the site or declared in the configuration. -/
theorem declared_of_pageOf (h : assemble config pages = .ok site) {id page : String}
    (hid : site.toc.pageOf id = some page) :
    (∃ p ∈ pages, p.slug = page ∧ id ∈ p.sections) ∨ ⟨id, page⟩ ∈ config.sections := by
  obtain ⟨toc, htoc, rfl⟩ := assemble_eq_ok_iff.1 h
  have hlookup := (Toc.pageOf_build htoc id).symm.trans hid
  refine (Toc.mem_declarations_iff.1 (Keyed.mem_of_lookup hlookup)).imp_left ?_
  rintro ⟨ids, hpage, hmem⟩
  obtain ⟨p, hp, heq⟩ := List.mem_map.1 hpage
  cases heq
  exact ⟨p, hp, rfl, hmem⟩

/-- A section that a page of the site holds is registered on that page. -/
theorem pageOf_of_mem (h : assemble config pages = .ok site) {p : Page} (hp : p ∈ pages)
    {id : String} (hid : id ∈ p.sections) : site.toc.pageOf id = some p.slug := by
  obtain ⟨toc, htoc, rfl⟩ := assemble_eq_ok_iff.1 h
  have hdeclared : (id, p.slug) ∈ Toc.declarations (pages.map fun p => (p.slug, p.sections))
      config.sections :=
    Toc.mem_declarations_iff.2 (.inl ⟨p.sections, List.mem_map.2 ⟨p, hp, rfl⟩, hid⟩)
  exact (Toc.pageOf_build htoc id).trans
    (Keyed.lookup_of_mem (Toc.build_eq_ok_iff.1 htoc).1 hdeclared)

/-- A section is registered exactly when a page of the site or the configuration declares it. -/
theorem pageOf_ne_none_iff (h : tocOf config pages = .ok toc) {id : String} :
    toc.pageOf id ≠ none ↔
      id ∈ pages.flatMap Page.sections ∨ id ∈ config.sections.map SectionEntry.id := by
  rw [Toc.pageOf_build_ne_none_iff h, List.flatMap_map]

/-! ### Rendering -/

/-- The page around what a body yields. -/
def frame (config : SiteConfig) (pages : List Page) (p : Page) (inner : Fragment) : Fragment :=
  ⟨Shell.header config.site (pages.map Page.navEntry) config.project p.navEntry ++ inner.html ++
    Shell.footer config.project, inner.dangling⟩

theorem renderPage_eq (config : SiteConfig) (pages : List Page) (toc : Toc) (p : Page) :
    (ofToc config pages toc).renderPage p =
      match p.body (config.pageLinks toc p) with
      | .ok inner => .ok (frame config pages p inner)
      | .error e => .error (.render p.slug (.link e)) := by
  have hlinks : Shell.links (ofToc config pages toc).context config.project p.navEntry =
      config.pageLinks toc p := rfl
  rw [renderPage, Shell.render, show (ofToc config pages toc).context.holder.get =
    .ok config.project from rfl]
  simp only [hlinks]
  cases p.body (config.pageLinks toc p) <;> rfl

/-- A page can be rendered exactly when its body can. -/
theorem exists_renderPage_iff (p : Page) :
    (∃ content, (ofToc config pages toc).renderPage p = .ok content) ↔ config.Renders toc p := by
  rw [renderPage_eq, SiteConfig.Renders]
  cases p.body (config.pageLinks toc p) with
  | ok inner => exact ⟨fun _ => ⟨inner, rfl⟩, fun _ => ⟨_, rfl⟩⟩
  | error e => simp

/-- What a page is rendered as is put around what its body yields. -/
theorem renderPage_eq_ok_iff {p : Page} {content : Fragment} :
    (ofToc config pages toc).renderPage p = .ok content ↔
      ∃ inner, p.body (config.pageLinks toc p) = .ok inner ∧
        content = frame config pages p inner := by
  rw [renderPage_eq]
  cases p.body (config.pageLinks toc p) with
  | ok inner => simp [eq_comm]
  | error e => simp

/-- A page that cannot be rendered is named, with the cause its body gave. -/
theorem renderPage_eq_error_iff {p : Page} {e : SiteError} :
    (ofToc config pages toc).renderPage p = .error e ↔
      ∃ cause, p.body (config.pageLinks toc p) = .error cause ∧
        e = .render p.slug (.link cause) := by
  rw [renderPage_eq]
  cases p.body (config.pageLinks toc p) with
  | ok inner => simp
  | error cause => simp [eq_comm]

/-- All pages are there exactly when each of them could be rendered, in the order of the list. -/
theorem renderAll_eq_ok_iff {rendered : List RenderedPage} :
    site.renderAll pages = .ok rendered ↔
      rendered.map RenderedPage.page = pages ∧
        ∀ r ∈ rendered, site.renderPage r.page = .ok r.content := by
  induction pages generalizing rendered with
  | nil =>
    rw [renderAll, List.map_eq_nil_iff]
    constructor
    · rintro ⟨⟩
      exact ⟨rfl, fun r hr => absurd hr List.not_mem_nil⟩
    · rintro ⟨rfl, -⟩
      rfl
  | cons p rest ih =>
    rw [renderAll]
    constructor
    · intro h
      split at h
      · cases h
      next content hp =>
        split at h
        · cases h
        next others hrest =>
          cases h
          obtain ⟨hmap, hothers⟩ := ih.1 hrest
          refine ⟨by rw [List.map_cons, hmap], fun r hr => ?_⟩
          rcases List.mem_cons.1 hr with rfl | hr
          · exact hp
          · exact hothers r hr
    · rintro ⟨hmap, hall⟩
      obtain ⟨⟨p', content⟩, others, rfl, rfl, hothers⟩ := List.map_eq_cons_iff.1 hmap
      have hp : site.renderPage p' = .ok content := hall _ List.mem_cons_self
      rw [hp, ih.2 ⟨hothers, fun r hr => hall r (List.mem_cons_of_mem _ hr)⟩]

/-- The work ends at the first page that cannot be rendered, and its error is the one reported. -/
theorem renderAll_eq_error_iff {e : SiteError} :
    site.renderAll pages = .error e ↔
      ∃ before p after, pages = before ++ p :: after ∧
        (∀ q ∈ before, ∃ content, site.renderPage q = .ok content) ∧
        site.renderPage p = .error e := by
  induction pages with
  | nil =>
    rw [renderAll]
    exact ⟨nofun, fun ⟨before, p, after, h, _⟩ => absurd h (by simp)⟩
  | cons p rest ih =>
    rw [renderAll]
    constructor
    · intro h
      split at h
      next e' hp =>
        cases h
        exact ⟨[], p, rest, rfl, fun q hq => absurd hq List.not_mem_nil, hp⟩
      next content hp =>
        split at h
        next e' hrest =>
          cases h
          obtain ⟨before, q, after, rfl, hbefore, hq⟩ := ih.1 hrest
          refine ⟨p :: before, q, after, rfl, fun q' hq' => ?_, hq⟩
          rcases List.mem_cons.1 hq' with rfl | hq'
          · exact ⟨content, hp⟩
          · exact hbefore q' hq'
        · cases h
    · rintro ⟨before, q, after, hsplit, hbefore, hq⟩
      rcases List.cons_eq_append_iff.1 hsplit with ⟨rfl, hcons⟩ | ⟨before', rfl, rfl⟩
      · cases hcons
        rw [hq]
      · obtain ⟨content, hp⟩ := hbefore p List.mem_cons_self
        rw [hp, ih.2 ⟨before', q, after, rfl, fun q' hq' => hbefore q' (List.mem_cons_of_mem _ hq'),
          hq⟩]

/-- **What rendering fails with** is what the first failing body gives. -/
theorem renderAll_ofToc_eq_error_iff {all : List Page} {e : SiteError} :
    (ofToc config all toc).renderAll pages = .error e ↔
      ∃ p cause, config.FirstFailure toc pages p cause ∧ e = .render p.slug (.link cause) := by
  rw [renderAll_eq_error_iff]
  constructor
  · rintro ⟨before, p, after, hsplit, hbefore, hp⟩
    obtain ⟨cause, hcause, he⟩ := renderPage_eq_error_iff.1 hp
    exact ⟨p, cause, ⟨before, after, hsplit, fun q hq => (exists_renderPage_iff q).1 (hbefore q hq),
      hcause⟩, he⟩
  · rintro ⟨p, cause, ⟨before, after, hsplit, hbefore, hcause⟩, he⟩
    exact ⟨before, p, after, hsplit, fun q hq => (exists_renderPage_iff q).2 (hbefore q hq),
      renderPage_eq_error_iff.2 ⟨cause, hcause, he⟩⟩

/-- Rendering all pages succeeds exactly when rendering each of them does. -/
theorem exists_renderAll_iff :
    (∃ rendered, site.renderAll pages = .ok rendered) ↔
      ∀ p ∈ pages, ∃ content, site.renderPage p = .ok content := by
  constructor
  · rintro ⟨rendered, hr⟩ p hp
    obtain ⟨hmap, hall⟩ := renderAll_eq_ok_iff.1 hr
    rw [← hmap] at hp
    obtain ⟨r, hr, rfl⟩ := List.mem_map.1 hp
    exact ⟨_, hall r hr⟩
  · intro h
    cases hr : site.renderAll pages with
    | ok rendered => exact ⟨rendered, rfl⟩
    | error e =>
      obtain ⟨before, p, after, rfl, -, hp⟩ := renderAll_eq_error_iff.1 hr
      obtain ⟨content, hcontent⟩ := h p (by simp)
      rw [hp] at hcontent
      cases hcontent

/-- **Rendering succeeds exactly when every body does.** -/
theorem exists_renderAll_ofToc_iff :
    (∃ rendered, (ofToc config pages toc).renderAll pages = .ok rendered) ↔
      ∀ p ∈ pages, config.Renders toc p := by
  rw [exists_renderAll_iff]
  exact forall₂_congr fun p _ => exists_renderPage_iff p

/-- All bodies are there, or one is the first that fails. -/
theorem renders_or_firstFailure (config : SiteConfig) (toc : Toc) (pages : List Page) :
    (∀ p ∈ pages, config.Renders toc p) ∨ ∃ p cause, config.FirstFailure toc pages p cause := by
  cases hr : (ofToc config pages toc).renderAll pages with
  | ok rendered => exact .inl (exists_renderAll_ofToc_iff.1 ⟨rendered, hr⟩)
  | error e =>
    obtain ⟨p, cause, hfirst, -⟩ := renderAll_ofToc_eq_error_iff.1 hr
    exact .inr ⟨p, cause, hfirst⟩

/-- There is a first body that fails as soon as there is one. -/
theorem exists_firstFailure_iff :
    (∃ p cause, config.FirstFailure toc pages p cause) ↔ ∃ p ∈ pages, ¬config.Renders toc p := by
  constructor
  · rintro ⟨p, cause, before, after, rfl, -, hcause⟩
    refine ⟨p, by simp, fun ⟨inner, hinner⟩ => ?_⟩
    rw [hcause] at hinner
    cases hinner
  · rintro ⟨p, hp, hno⟩
    exact (renders_or_firstFailure config toc pages).resolve_left fun hall => hno (hall p hp)

/-! ### Workers -/

/-- A single worker meets the pages as they stand. -/
@[simp] theorem renderAllBy_self (site : Site) (pages : List Page) :
    site.renderAllBy pages pages = site.renderAll pages := by
  rw [renderAllBy]
  cases site.renderAll pages <;> rfl

/-- Whether all pages can be rendered does not depend on the order. -/
theorem exists_renderAll_perm (h : order.Perm pages) :
    (∃ rendered, site.renderAll order = .ok rendered) ↔
      ∃ rendered, site.renderAll pages = .ok rendered := by
  rw [exists_renderAll_iff, exists_renderAll_iff]
  exact forall_congr' fun p => imp_congr_left h.mem_iff

theorem exists_firstFailure_perm (h : order.Perm pages) :
    (∃ p cause, config.FirstFailure toc order p cause) ↔
      ∃ p cause, config.FirstFailure toc pages p cause := by
  rw [exists_firstFailure_iff, exists_firstFailure_iff]
  exact exists_congr fun p => and_congr_left' h.mem_iff

/-- **What is rendered does not depend on the workers.** -/
theorem renderAllBy_eq_ok_iff (h : order.Perm pages) {rendered : List RenderedPage} :
    site.renderAllBy order pages = .ok rendered ↔ site.renderAll pages = .ok rendered := by
  rw [renderAllBy]
  constructor
  · intro hr
    split at hr
    · cases hr
    · exact hr
  · intro hr
    obtain ⟨_, horder⟩ := (exists_renderAll_perm h).2 ⟨rendered, hr⟩
    rw [horder]
    exact hr

/-- **What is reported is the failure that is met first.** -/
theorem renderAllBy_eq_error_iff (h : order.Perm pages) {e : SiteError} :
    site.renderAllBy order pages = .error e ↔ site.renderAll order = .error e := by
  rw [renderAllBy]
  cases horder : site.renderAll order with
  | error e' => rfl
  | ok others =>
    obtain ⟨rendered, hr⟩ := (exists_renderAll_perm h).1 ⟨others, horder⟩
    simp [hr]

/-- By the bodies, it is what the first failing body gives in the order of the workers. -/
theorem renderAllBy_ofToc_eq_error_iff (h : order.Perm pages) {e : SiteError} :
    (ofToc config pages toc).renderAllBy order pages = .error e ↔
      ∃ p cause, config.FirstFailure toc order p cause ∧ e = .render p.slug (.link cause) :=
  (renderAllBy_eq_error_iff h).trans renderAll_ofToc_eq_error_iff

/-- **Any failing page can be the one that is met first.** -/
theorem exists_renderAllBy_eq_error_iff {e : SiteError} :
    (∃ order, order.Perm pages ∧ site.renderAllBy order pages = .error e) ↔
      ∃ p ∈ pages, site.renderPage p = .error e := by
  constructor
  · rintro ⟨order, horder, he⟩
    obtain ⟨before, p, after, rfl, -, hp⟩ :=
      renderAll_eq_error_iff.1 ((renderAllBy_eq_error_iff horder).1 he)
    exact ⟨p, horder.subset (by simp), hp⟩
  · rintro ⟨p, hp, he⟩
    obtain ⟨before, after, rfl⟩ := List.append_of_mem hp
    have horder : (p :: (before ++ after)).Perm (before ++ p :: after) := List.perm_middle.symm
    refine ⟨_, horder, (renderAllBy_eq_error_iff horder).2 ?_⟩
    exact renderAll_eq_error_iff.2 ⟨[], p, _, rfl, List.forall_mem_nil _, he⟩

/-! ### One page by its slug -/

/-- With distinct slugs, a page is the first one with its slug. -/
theorem find?_of_mem (hnodup : (pages.map Page.slug).Nodup) {p : Page} (hp : p ∈ pages) :
    Page.find? pages p.slug = some p := by
  induction pages with
  | nil => cases hp
  | cons q rest ih =>
    rw [List.map_cons, List.nodup_cons] at hnodup
    rw [Page.find?, List.find?_cons]
    rcases List.mem_cons.1 hp with rfl | hp
    · simp
    · have hne : q.slug ≠ p.slug := fun he => hnodup.1 (he ▸ List.mem_map_of_mem hp)
      rw [beq_false_of_ne hne]
      exact ih hnodup.2 hp

/-- **A page alone is the page among all.** -/
theorem renderOne_of_mem (htoc : tocOf config pages = .ok toc)
    (hnodup : (pages.map Page.slug).Nodup) {p : Page} (hp : p ∈ pages) :
    renderOne config pages p.slug = (ofToc config pages toc).renderPage p := by
  rw [renderOne, find?_of_mem hnodup hp]
  simp only [assemble_of_toc htoc]

end Site

end StaticSite
