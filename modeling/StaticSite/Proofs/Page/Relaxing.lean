import StaticSite.Proofs.Page.Stock

/-!
# Letting unknown sections through

The policy for unknown sections is read in one place: where a link to a section is composed that is
not registered. The strict policy makes an error of it there, and the lenient one a bare fragment.

## Two runs of the same script

A script that succeeds under the strict policy has met no unknown section, so under the lenient one
it goes through the same links, item by item. A script that fails does not stop any more at an
unknown section, and then its later items are reached for the first time. What they can fail for is
an argument of their own, which the policy has no part in. So relaxing adds successes, and the
errors that it brings to light are those of faulty arguments.

## Main results

* `ScriptItem.render_relaxed`, `Script.render_relaxed` — one item, and a whole script
* `Script.blames_of_render_error` — what a script fails for when sections are let through
* `Site.renderAll_relaxed` — all pages
* `Site.relaxing_adds_successes` — what the lenient policy changes, and what is left to fail
-/

namespace StaticSite

/-- The configuration with another policy for unknown sections. -/
def SiteConfig.withUnknown (config : SiteConfig) (u : UnknownSections) : SiteConfig :=
  { config with links := { config.links with unknownSections := u } }

/-- The same links with unknown sections let through. -/
def Links.relaxed (l : Links) : Links :=
  { l with policy := { l.policy with unknownSections := .warn } }

/-- The body of the page is written as a script. -/
def Page.Scripted (p : Page) : Prop :=
  ∃ s : Script, p.body = s.body

theorem Stock.scripted : ∀ p ∈ Stock.pages, p.Scripted := by
  intro p hp
  obtain ⟨s, hbody, -⟩ := Stock.exists_fit_script hp
  exact ⟨s, hbody⟩

/-- The script has a link that fails with the error for its own argument: a path without any
character but slashes, or a qualifier with a path separator. -/
def Script.Blames (s : Script) (cause : LinkError) : Prop :=
  (∃ path label?, .external path label? ∈ s ∧ (∀ c ∈ path.toList, c = '/') ∧
    cause = .invalidPath path) ∨
  ∃ suffix label?, .archive suffix label? ∈ s ∧ ('/' ∈ suffix.toList ∨ '\\' ∈ suffix.toList) ∧
    cause = .invalidSuffix suffix

variable {l : Links} {f : Fragment} {cause : LinkError}

/-! ### One script -/

/-- A link to a section that is composed does not depend on what would happen if it were not. -/
theorem Links.internal_relaxed {id : String} {a : Anchor} (h : l.internal id = .ok a) :
    l.relaxed.internal id = .ok a := by
  have htoc : l.relaxed.toc = l.toc := rfl
  rw [internal] at h ⊢
  rw [htoc]
  cases hpage : l.toc.pageOf id with
  | some page =>
    rw [hpage] at h
    exact h
  | none =>
    rw [hpage] at h
    cases hpolicy : l.policy.unknownSections with
    | error =>
      rw [hpolicy] at h
      cases h
    | warn =>
      rw [hpolicy] at h
      exact h

/-- **One item.** -/
theorem ScriptItem.render_relaxed {item : ScriptItem} (h : item.render l = .ok f) :
    item.render l.relaxed = .ok f := by
  cases item with
  | internal id label? =>
    rw [render] at h ⊢
    cases hlink : l.internal id with
    | error e =>
      rw [hlink] at h
      cases h
    | ok a =>
      rw [hlink] at h
      rw [Links.internal_relaxed hlink]
      exact h
  | _ => exact h

/-- **A script that succeeds goes through the same links.** -/
theorem Script.render_relaxed {s : Script} (h : Script.render l s = .ok f) :
    Script.render l.relaxed s = .ok f := by
  induction s generalizing f with
  | nil => exact h
  | cons item rest ih =>
    obtain ⟨first, others, hfirst, hothers, rfl⟩ := render_cons_eq_ok_iff.1 h
    exact render_cons_eq_ok_iff.2
      ⟨first, others, ScriptItem.render_relaxed hfirst, ih hothers, rfl⟩

/-- **What a script fails for** when sections are let through. -/
theorem Script.blames_of_render_error {s : Script} (hpolicy : l.policy.unknownSections = .warn)
    (h : Script.render l s = .error cause) : s.Blames cause := by
  obtain ⟨item, hitem, hfault⟩ := List.exists_of_findSome?_eq_some (render_eq_error_iff.1 h)
  cases item with
  | external path label? =>
    rw [ScriptItem.fault?, Option.ite_none_right_eq_some,
      Text.dropLeadingSlashes_eq_empty_iff] at hfault
    exact .inl ⟨path, label?, hitem, hfault.1, (Option.some.inj hfault.2).symm⟩
  | archive suffix label? =>
    rw [ScriptItem.fault?, Option.ite_none_right_eq_some, holdsSeparator_iff] at hfault
    exact .inr ⟨suffix, label?, hitem, hfault.1, (Option.some.inj hfault.2).symm⟩
  | internal id label? =>
    have hadmits : l.admits id = true := Links.admits_iff.2 (.inl hpolicy)
    rw [ScriptItem.fault?, Links.missing?, if_pos hadmits] at hfault
    cases hfault
  | _ => cases hfault

theorem Script.Blames.ne_unknownSection {s : Script} (h : s.Blames cause) (id : String) :
    cause ≠ .unknownSection id := by
  rintro rfl
  rcases h with ⟨_, _, -, -, heq⟩ | ⟨_, _, -, -, heq⟩ <;> cases heq

/-! ### All pages -/

namespace Site

variable {config : SiteConfig} {pages : List Page} {site : Site} {toc : Toc} {p : Page}

/-- The policy has no part in the table of contents. -/
theorem assemble_withUnknown_iff (u : UnknownSections) :
    assemble (config.withUnknown u) pages = .ok site ↔
      ∃ toc, tocOf config pages = .ok toc ∧ site = ofToc (config.withUnknown u) pages toc :=
  assemble_eq_ok_iff

/-- A page that can be rendered under the strict policy is the same under the lenient one. -/
theorem renderPage_relaxed (hscript : p.Scripted)
    (h : (ofToc (config.withUnknown .error) pages toc).renderPage p = .ok f) :
    (ofToc (config.withUnknown .warn) pages toc).renderPage p = .ok f := by
  obtain ⟨s, hbody⟩ := hscript
  have hlinks : (config.withUnknown .warn).pageLinks toc p =
      ((config.withUnknown .error).pageLinks toc p).relaxed := rfl
  obtain ⟨inner, hinner, rfl⟩ := renderPage_eq_ok_iff.1 h
  refine renderPage_eq_ok_iff.2 ⟨inner, ?_, rfl⟩
  rw [hbody] at hinner ⊢
  rw [hlinks, Script.body, Script.render_relaxed hinner]

/-- **All pages.** -/
theorem renderAll_relaxed (hscripts : ∀ p ∈ pages, p.Scripted) {rendered : List RenderedPage}
    (h : (ofToc (config.withUnknown .error) pages toc).renderAll pages = .ok rendered) :
    (ofToc (config.withUnknown .warn) pages toc).renderAll pages = .ok rendered := by
  obtain ⟨hpages, hall⟩ := renderAll_eq_ok_iff.1 h
  refine renderAll_eq_ok_iff.2 ⟨hpages, fun r hr => ?_⟩
  exact renderPage_relaxed (hscripts r.page (hpages ▸ List.mem_map_of_mem hr)) (hall r hr)

/-- What a page fails for under the lenient policy. -/
theorem blames_of_renderPage_error {e : SiteError}
    (h : (ofToc (config.withUnknown .warn) pages toc).renderPage p = .error e) :
    ∃ cause, e = .render p.slug (.link cause) ∧
      ∀ s : Script, p.body = s.body → s.Blames cause := by
  obtain ⟨cause, hcause, rfl⟩ := renderPage_eq_error_iff.1 h
  refine ⟨cause, rfl, fun s hbody => ?_⟩
  rw [hbody] at hcause
  exact Script.blames_of_render_error rfl hcause

/-- **Relaxing the policy only adds successes.** Pages whose bodies are scripts, the built-in ones
among them, that can all be rendered under the strict policy are the same under the lenient one.
Under the lenient policy no page fails for an unknown section, and when the pages cannot be
rendered, the page that is named has a link in its script whose own argument is faulty, with the
error that is reported. -/
theorem relaxing_adds_successes (config : SiteConfig) (hscripts : ∀ p ∈ pages, p.Scripted) :
    (∀ site rendered, assemble (config.withUnknown .error) pages = .ok site →
      site.renderAll pages = .ok rendered →
      ∃ site', assemble (config.withUnknown .warn) pages = .ok site' ∧
        site'.renderAll pages = .ok rendered) ∧
    ∀ site, assemble (config.withUnknown .warn) pages = .ok site →
      (∀ p ∈ pages, ∀ id,
        site.renderPage p ≠ .error (.render p.slug (.link (.unknownSection id)))) ∧
      ∀ e, site.renderAll pages = .error e →
        ∃ p ∈ pages, ∃ cause, e = .render p.slug (.link cause) ∧
          ∀ s : Script, p.body = s.body → s.Blames cause := by
  refine ⟨fun site rendered hsite hall => ?_,
    fun site hsite => ⟨fun p hp id h => ?_, fun e h => ?_⟩⟩
  · obtain ⟨toc, htoc, rfl⟩ := (assemble_withUnknown_iff .error).1 hsite
    exact ⟨_, (assemble_withUnknown_iff .warn).2 ⟨toc, htoc, rfl⟩, renderAll_relaxed hscripts hall⟩
  · obtain ⟨toc, -, rfl⟩ := (assemble_withUnknown_iff .warn).1 hsite
    obtain ⟨cause, heq, hblames⟩ := blames_of_renderPage_error h
    obtain ⟨s, hbody⟩ := hscripts p hp
    cases heq
    exact (hblames s hbody).ne_unknownSection id rfl
  · obtain ⟨toc, -, rfl⟩ := (assemble_withUnknown_iff .warn).1 hsite
    obtain ⟨before, p, after, hsplit, -, hp⟩ := renderAll_eq_error_iff.1 h
    exact ⟨p, by simp [hsplit], blames_of_renderPage_error hp⟩

/-- The built-in pages with the sections that they refer to declared. -/
theorem relaxing_adds_successes_stock :
    ∃ site rendered site',
      assemble (SiteConfig.stock.withUnknown .error) Stock.pages = .ok site ∧
      site.renderAll Stock.pages = .ok rendered ∧
      assemble (SiteConfig.stock.withUnknown .warn) Stock.pages = .ok site' ∧
      site'.renderAll Stock.pages = .ok rendered := by
  obtain ⟨toc, htoc⟩ := Stock.exists_toc (c := SiteConfig.stock.withUnknown .error)
    ⟨by decide, by decide⟩
  have hsite := assemble_of_toc htoc
  obtain ⟨rendered, hall⟩ := exists_renderAll_ofToc_iff.2
    ((Stock.renders_all_iff htoc).2 (.inr (by decide)))
  obtain ⟨site', hsite', hall'⟩ :=
    (relaxing_adds_successes SiteConfig.stock Stock.scripted).1 _ rendered hsite hall
  exact ⟨_, rendered, site', hsite, hall, hsite', hall'⟩

end Site

end StaticSite
