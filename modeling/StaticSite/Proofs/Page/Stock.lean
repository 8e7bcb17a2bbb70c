import StaticSite.Page.Stock
import StaticSite.Proofs.Build.Agreement
import StaticSite.Proofs.Page.Script

/-!
# When the built-in pages can be rendered

The built-in pages are scripts with fixed arguments, so their links into the project host and to the
archives never fail, whatever the project is. Of their references, two are to sections that the
pages hold themselves. What is left are three references to sections that the configuration has to
declare, unless it lets unknown sections through.

## The order of the work

The table of contents comes first. The pages hold seven sections with different ids, so a repeated
id is found at an entry of the configuration, and the first such entry is the one that is named.
With a table of contents, the pages come in the order in which the workers meet them, and in each
page the references in theirs. So if sections are missing on two pages, either can be the one that
is named; a single worker meets the home page first.

## Main results

* `Stock.exists_fit_script` — no link of a built-in page can fail for its own argument
* `Stock.exists_repeated` — the entry that is named when an id is declared twice
* `Stock.renders_all_iff`, `Stock.exists_check_iff` — when all pages can be rendered, and checked
* `Stock.exists_check_eq_error_iff` — the errors that missing sections can lead to
* `Stock.check_verdict` — the verdict of a check, and its errors
-/

namespace StaticSite

open Build (checkSite checkSiteBy)

/-- The ids of the sections that the configuration declares. -/
def SiteConfig.sectionIds (c : SiteConfig) : List String :=
  c.sections.map SectionEntry.id

namespace Stock

/-- The ids of the sections that the built-in pages hold. -/
def sectionIds : List String :=
  pages.flatMap Page.sections

/-- The entries have different ids, and none is that of a section of a built-in page. -/
def Fresh (sections : List SectionEntry) : Prop :=
  (sections.map SectionEntry.id).Nodup ∧ ∀ s ∈ sections, s.id ∉ sectionIds

/-- What the built-in pages declare. -/
def pageSections : List (String × List String) :=
  pages.map fun p => (p.slug, p.sections)

variable {c : SiteConfig} {toc : Toc} {l : Links} {id : String} {e : LinkError}

/-! ### The table of contents -/

theorem flatMap_pageSections : pageSections.flatMap Prod.snd = sectionIds := rfl

example : sectionIds = ["news", "known-bugs", "limitations", "binaries", "cvs", "decompiler",
    "obfuscator"] := rfl

/-- Entries are fresh when, with the sections of the pages, no id is declared twice. -/
theorem fresh_iff {sections : List SectionEntry} :
    Fresh sections ↔ ((Toc.declarations pageSections sections).map Prod.fst).Nodup := by
  have hpages : sectionIds.Nodup := by decide
  rw [Toc.keys_declarations, flatMap_pageSections, List.nodup_append', Fresh]
  simp only [hpages, true_and, List.disjoint_right, List.forall_mem_map]

theorem exists_toc (h : Fresh c.sections) : ∃ toc, Site.tocOf c pages = .ok toc :=
  ⟨_, Toc.build_eq_ok_iff.2 ⟨fresh_iff.1 h, rfl⟩⟩

/-- **The first entry that is not fresh** is the one that is named. -/
theorem exists_repeated (h : ¬Fresh c.sections) :
    ∃ before s after first, c.sections = before ++ s :: after ∧ Fresh before ∧
      (s.id, first) ∈ Toc.declarations pageSections before ∧
      Site.tocOf c pages = .error (.duplicateSection s.id first s.page) := by
  rw [fresh_iff] at h
  obtain ⟨before, s, after, first, hsplit, hbefore, hmem⟩ :=
    Toc.exists_repeated (by decide : (pageSections.flatMap Prod.snd).Nodup) h
  refine ⟨before, s, after, first, hsplit, fresh_iff.2 hbefore, hmem, ?_⟩
  rw [Site.tocOf, hsplit]
  exact Toc.build_of_repeated hbefore hmem after

/-! ### The pages -/

/-- What a reference of a page needs: a declaration, by a page or by the configuration. -/
theorem admits_iff (htoc : Site.tocOf c pages = .ok toc) (p : Page) :
    (c.pageLinks toc p).admits id = true ↔
      c.links.unknownSections = .warn ∨ id ∈ sectionIds ∨ id ∈ c.sectionIds := by
  rw [Links.admits_iff]
  exact or_congr_right (Site.pageOf_ne_none_iff htoc)

theorem fit_homeScript : ∀ item ∈ homeScript, item.Fit := by decide

theorem fit_downloadScript : ∀ item ∈ downloadScript, item.Fit := by decide

theorem fit_questionsScript : ∀ item ∈ questionsScript, item.Fit := by decide

/-- **Every page is a fit script**: none of its links can fail for its own argument. -/
theorem exists_fit_script {p : Page} (hp : p ∈ pages) :
    ∃ script : Script, p.body = script.body ∧ ∀ item ∈ script, item.Fit := by
  simp only [pages, List.mem_cons, List.not_mem_nil, or_false] at hp
  rcases hp with rfl | rfl | rfl
  · exact ⟨homeScript, rfl, fit_homeScript⟩
  · exact ⟨downloadScript, rfl, fit_downloadScript⟩
  · exact ⟨questionsScript, rfl, fit_questionsScript⟩

theorem renders_home_iff :
    c.Renders toc home ↔ ∀ id ∈ ["license", "applet"], (c.pageLinks toc home).admits id = true :=
  Script.exists_render_iff_of_fit fit_homeScript

theorem renders_download_iff :
    c.Renders toc download ↔ ∀ id ∈ ["links"], (c.pageLinks toc download).admits id = true :=
  Script.exists_render_iff_of_fit fit_downloadScript

theorem renders_questions_iff :
    c.Renders toc questions ↔
      ∀ id ∈ ["decompiler", "obfuscator"], (c.pageLinks toc questions).admits id = true :=
  Script.exists_render_iff_of_fit fit_questionsScript

/-- The page of questions refers to its own sections only. -/
theorem renders_questions (htoc : Site.tocOf c pages = .ok toc) : c.Renders toc questions := by
  have hown : ∀ id ∈ ["decompiler", "obfuscator"], id ∈ sectionIds := by decide
  exact renders_questions_iff.2 fun id hid => (admits_iff htoc _).2 (.inr (.inl (hown id hid)))

/-! ### The verdict -/

/-- The sections that the built-in pages refer to without holding them. -/
def required : List String :=
  ["license", "applet", "links"]

theorem admits_required_iff (htoc : Site.tocOf c pages = .ok toc) (p : Page) (hid : id ∈ required) :
    (c.pageLinks toc p).admits id = true ↔
      c.links.unknownSections = .warn ∨ id ∈ c.sectionIds := by
  have hforeign : ∀ id ∈ required, id ∉ sectionIds := by decide
  rw [admits_iff htoc, or_iff_right (hforeign id hid)]

/-- A required section that the configuration does not declare is not admitted under the strict
policy. -/
theorem admits_eq_false (htoc : Site.tocOf c pages = .ok toc)
    (hpolicy : c.links.unknownSections = .error) (p : Page) (hid : id ∈ required)
    (hmissing : id ∉ c.sectionIds) : (c.pageLinks toc p).admits id = false := by
  rw [← Bool.not_eq_true, admits_required_iff htoc p hid, hpolicy]
  simpa using hmissing

theorem renders_all_iff (htoc : Site.tocOf c pages = .ok toc) :
    (∀ p ∈ pages, c.Renders toc p) ↔
      c.links.unknownSections = .warn ∨ ∀ id ∈ required, id ∈ c.sectionIds := by
  have hadmits : ∀ p, ∀ id ∈ required, (c.pageLinks toc p).admits id = true ↔
      c.links.unknownSections = .warn ∨ id ∈ c.sectionIds :=
    fun p id hid => admits_required_iff htoc p hid
  simp only [required, List.forall_mem_cons] at hadmits
  obtain ⟨hlicense, happlet, -⟩ := hadmits home
  obtain ⟨-, -, hlinks, -⟩ := hadmits download
  simp only [pages, required, List.forall_mem_cons, renders_home_iff, renders_download_iff,
    renders_questions htoc, hlicense, happlet, hlinks, List.not_mem_nil, false_imp_iff,
    implies_true, and_true]
  rw [or_and_left, or_and_left, and_assoc]

theorem exists_check_iff {order : List Page} (horder : order.Perm pages) :
    (∃ report, checkSiteBy order c pages = .ok report) ↔
      Fresh c.sections ∧
        (c.links.unknownSections = .warn ∨ ∀ id ∈ required, id ∈ c.sectionIds) := by
  by_cases hfresh : Fresh c.sections
  · obtain ⟨toc, htoc⟩ := exists_toc hfresh
    rw [Build.exists_checkSiteBy_iff htoc horder, renders_all_iff htoc, and_iff_right hfresh]
  · obtain ⟨_, s, _, first, -, -, -, herror⟩ := exists_repeated hfresh
    rw [Build.checkSiteBy_of_toc_error order herror]
    simp [hfresh]

/-! ### How a page fails -/

/-- The first reference of a built-in page to a section that the configuration does not declare. -/
inductive FirstMissing (c : SiteConfig) : String → String → Prop
  | license : "license" ∉ c.sectionIds → FirstMissing c "index" "license"
  | applet : "license" ∈ c.sectionIds → "applet" ∉ c.sectionIds → FirstMissing c "index" "applet"
  | links : "links" ∉ c.sectionIds → FirstMissing c "download" "links"

/-- A page whose references are admitted up to one fails with this one. -/
theorem body_of_missing {p : Page} {script : Script} {before after : List String}
    (hbody : p.body = script.body) (hfit : ∀ item ∈ script, item.Fit)
    (hreferences : script.filterMap ScriptItem.reference? = before ++ id :: after)
    (hbefore : ∀ i ∈ before, (c.pageLinks toc p).admits i = true)
    (hid : (c.pageLinks toc p).admits id = false) :
    p.body (c.pageLinks toc p) = .error (.unknownSection id) := by
  rw [hbody]
  exact Script.render_of_first_missing hfit hreferences hbefore hid

theorem body_home_of_no_license (htoc : Site.tocOf c pages = .ok toc)
    (hpolicy : c.links.unknownSections = .error) (hlicense : "license" ∉ c.sectionIds) :
    home.body (c.pageLinks toc home) = .error (.unknownSection "license") := by
  have hreferences :
      homeScript.filterMap ScriptItem.reference? = [] ++ "license" :: ["applet"] := rfl
  exact body_of_missing rfl fit_homeScript hreferences (List.forall_mem_nil _)
    (admits_eq_false htoc hpolicy _ (by decide) hlicense)

theorem body_home_of_no_applet (htoc : Site.tocOf c pages = .ok toc)
    (hpolicy : c.links.unknownSections = .error) (hlicense : "license" ∈ c.sectionIds)
    (happlet : "applet" ∉ c.sectionIds) :
    home.body (c.pageLinks toc home) = .error (.unknownSection "applet") := by
  have hreferences :
      homeScript.filterMap ScriptItem.reference? = ["license"] ++ "applet" :: [] := rfl
  refine body_of_missing rfl fit_homeScript hreferences ?_
    (admits_eq_false htoc hpolicy _ (by decide) happlet)
  exact List.forall_mem_singleton.2 ((admits_required_iff htoc _ (by decide)).2 (.inr hlicense))

theorem body_download_of_no_links (htoc : Site.tocOf c pages = .ok toc)
    (hpolicy : c.links.unknownSections = .error) (hlinks : "links" ∉ c.sectionIds) :
    download.body (c.pageLinks toc download) = .error (.unknownSection "links") := by
  have hreferences : downloadScript.filterMap ScriptItem.reference? = [] ++ "links" :: [] := rfl
  exact body_of_missing rfl fit_downloadScript hreferences (List.forall_mem_nil _)
    (admits_eq_false htoc hpolicy _ (by decide) hlinks)

theorem renders_home (htoc : Site.tocOf c pages = .ok toc) (hlicense : "license" ∈ c.sectionIds)
    (happlet : "applet" ∈ c.sectionIds) : c.Renders toc home := by
  refine renders_home_iff.2 (List.forall_mem_cons.2 ⟨?_, List.forall_mem_singleton.2 ?_⟩)
  · exact (admits_required_iff htoc _ (by decide)).2 (.inr hlicense)
  · exact (admits_required_iff htoc _ (by decide)).2 (.inr happlet)

theorem renders_download (htoc : Site.tocOf c pages = .ok toc) (hlinks : "links" ∈ c.sectionIds) :
    c.Renders toc download :=
  renders_download_iff.2 <| List.forall_mem_singleton.2 <|
    (admits_required_iff htoc _ (by decide)).2 (.inr hlinks)

/-- Under the strict policy the pages fail with their first missing references. -/
theorem exists_body_eq_error_iff (htoc : Site.tocOf c pages = .ok toc)
    (hpolicy : c.links.unknownSections = .error) {page : String} :
    (∃ p ∈ pages, p.slug = page ∧ p.body (c.pageLinks toc p) = .error e) ↔
      ∃ id, FirstMissing c page id ∧ e = .unknownSection id := by
  have hrenders : ∀ p, c.Renders toc p → p.body (c.pageLinks toc p) ≠ .error e := by
    rintro p ⟨inner, hinner⟩
    rw [hinner]
    exact nofun
  constructor
  · rintro ⟨p, hp, rfl, he⟩
    simp only [pages, List.mem_cons, List.not_mem_nil, or_false] at hp
    rcases hp with rfl | rfl | rfl
    · by_cases hlicense : "license" ∈ c.sectionIds
      · by_cases happlet : "applet" ∈ c.sectionIds
        · exact absurd he (hrenders _ (renders_home htoc hlicense happlet))
        · rw [body_home_of_no_applet htoc hpolicy hlicense happlet] at he
          exact ⟨_, .applet hlicense happlet, (Except.error.inj he).symm⟩
      · rw [body_home_of_no_license htoc hpolicy hlicense] at he
        exact ⟨_, .license hlicense, (Except.error.inj he).symm⟩
    · by_cases hlinks : "links" ∈ c.sectionIds
      · exact absurd he (hrenders _ (renders_download htoc hlinks))
      · rw [body_download_of_no_links htoc hpolicy hlinks] at he
        exact ⟨_, .links hlinks, (Except.error.inj he).symm⟩
    · exact absurd he (hrenders _ (renders_questions htoc))
  · rintro ⟨id, hmissing, rfl⟩
    cases hmissing with
    | license hlicense =>
      exact ⟨home, by simp [pages], rfl, body_home_of_no_license htoc hpolicy hlicense⟩
    | applet hlicense happlet =>
      exact ⟨home, by simp [pages], rfl, body_home_of_no_applet htoc hpolicy hlicense happlet⟩
    | links hlinks =>
      exact ⟨download, by simp [pages], rfl, body_download_of_no_links htoc hpolicy hlinks⟩

/-! ### How a check fails -/

/-- **The errors that missing sections can lead to**, in one order of the workers or another. -/
theorem exists_check_eq_error_iff (htoc : Site.tocOf c pages = .ok toc)
    (hpolicy : c.links.unknownSections = .error) {e : SiteError} :
    (∃ order, order.Perm pages ∧ checkSiteBy order c pages = .error e) ↔
      ∃ page id, FirstMissing c page id ∧ e = .render page (.link (.unknownSection id)) := by
  rw [Build.exists_checkSiteBy_eq_error_iff htoc]
  constructor
  · rintro ⟨p, hp, cause, hcause, rfl⟩
    obtain ⟨id, hmissing, rfl⟩ :=
      (exists_body_eq_error_iff htoc hpolicy).1 ⟨p, hp, rfl, hcause⟩
    exact ⟨_, id, hmissing, rfl⟩
  · rintro ⟨_, id, hmissing, rfl⟩
    obtain ⟨p, hp, rfl, hcause⟩ := (exists_body_eq_error_iff htoc hpolicy).2 ⟨id, hmissing, rfl⟩
    exact ⟨p, hp, _, hcause, rfl⟩

/-- A single worker meets the home page first. -/
theorem checkSite_of_home (htoc : Site.tocOf c pages = .ok toc)
    (h : home.body (c.pageLinks toc home) = .error e) :
    checkSite c pages = .error (.render "index" (.link e)) := by
  have hpages : pages = [] ++ home :: [download, questions] := rfl
  exact Build.checkSiteBy_of_firstFailure htoc (.refl _)
    ⟨_, _, hpages, List.forall_mem_nil _, h⟩

/-- And then the page of downloads. -/
theorem checkSite_of_download (htoc : Site.tocOf c pages = .ok toc) (hhome : c.Renders toc home)
    (h : download.body (c.pageLinks toc download) = .error e) :
    checkSite c pages = .error (.render "download" (.link e)) := by
  have hpages : pages = [home] ++ download :: [questions] := rfl
  exact Build.checkSiteBy_of_firstFailure htoc (.refl _)
    ⟨_, _, hpages, List.forall_mem_singleton.2 hhome, h⟩

/-- **The verdict on the built-in pages.** A check succeeds exactly when the configuration declares
fresh sections and, unless unknown sections are let through, the three that the pages refer to. If
the sections are not fresh, the first entry that is not is named with the page that has its id
already. If a required section is missing, a page is named with its first reference to such a
section; every page that has one can be the one that is named, and with a single worker it is the
one that comes first. No link into the project host or to an archive fails in any page, and the page
of questions never fails. -/
theorem check_verdict (c : SiteConfig) :
    (∀ order, order.Perm pages →
      ((∃ report, checkSiteBy order c pages = .ok report) ↔
        Fresh c.sections ∧
          (c.links.unknownSections = .warn ∨ ∀ id ∈ required, id ∈ c.sectionIds))) ∧
    (¬Fresh c.sections →
      ∃ before s after first, c.sections = before ++ s :: after ∧ Fresh before ∧
        (s.id, first) ∈ Toc.declarations pageSections before ∧
        ∀ order, checkSiteBy order c pages = .error (.toc (.duplicateSection s.id first s.page))) ∧
    (Fresh c.sections → c.links.unknownSections = .error →
      (∀ e, (∃ order, order.Perm pages ∧ checkSiteBy order c pages = .error e) ↔
        ∃ page id, FirstMissing c page id ∧ e = .render page (.link (.unknownSection id))) ∧
      ("license" ∉ c.sectionIds →
        checkSite c pages = .error (.render "index" (.link (.unknownSection "license")))) ∧
      ("license" ∈ c.sectionIds → "applet" ∉ c.sectionIds →
        checkSite c pages = .error (.render "index" (.link (.unknownSection "applet")))) ∧
      ("license" ∈ c.sectionIds → "applet" ∈ c.sectionIds → "links" ∉ c.sectionIds →
        checkSite c pages = .error (.render "download" (.link (.unknownSection "links"))))) ∧
    (∀ p ∈ pages, ∃ script : Script, p.body = script.body ∧ ∀ l : Links,
      (∀ path label?, .external path label? ∈ script → ∃ a, l.external path = .ok a) ∧
      ∀ suffix label?, .archive suffix label? ∈ script → ∃ a, l.archive suffix = .ok a) ∧
    ∀ toc, Site.tocOf c pages = .ok toc → c.Renders toc questions := by
  refine ⟨fun order horder => exists_check_iff horder, ?_, ?_, ?_,
    fun toc htoc => renders_questions htoc⟩
  · intro hfresh
    obtain ⟨before, s, after, first, hsplit, hbefore, hmem, herror⟩ := exists_repeated hfresh
    exact ⟨before, s, after, first, hsplit, hbefore, hmem,
      fun order => Build.checkSiteBy_of_toc_error order herror⟩
  · intro hfresh hpolicy
    obtain ⟨toc, htoc⟩ := exists_toc hfresh
    refine ⟨fun e => exists_check_eq_error_iff htoc hpolicy, fun hlicense => ?_,
      fun hlicense happlet => ?_, fun hlicense happlet hlinks => ?_⟩
    · exact checkSite_of_home htoc (body_home_of_no_license htoc hpolicy hlicense)
    · exact checkSite_of_home htoc (body_home_of_no_applet htoc hpolicy hlicense happlet)
    · exact checkSite_of_download htoc (renders_home htoc hlicense happlet)
        (body_download_of_no_links htoc hpolicy hlinks)
  · intro p hp
    obtain ⟨script, hbody, hfit⟩ := exists_fit_script hp
    refine ⟨script, hbody, fun l => ⟨fun path label? hmem => ?_, fun suffix label? hmem => ?_⟩⟩
    · exact ScriptItem.exists_external_of_fit (hfit _ hmem) l
    · exact ScriptItem.exists_archive_of_fit (hfit _ hmem) l

/-- A configuration that declares sections of one page. -/
def declaring (ids : List String) : SiteConfig where
  sections := ids.map fun id => ⟨id, "guide"⟩

theorem check_verdict_declaring :
    (∃ report, checkSite (declaring ["license", "applet", "links"]) pages = .ok report) ∧
      checkSite (declaring ["license", "links"]) pages =
        .error (.render "index" (.link (.unknownSection "applet"))) ∧
      checkSite (declaring ["cvs"]) pages =
        .error (.toc (.duplicateSection "cvs" "download" "guide")) := by
  obtain ⟨hsucceeds, -⟩ := check_verdict (declaring ["license", "applet", "links"])
  obtain ⟨-, -, hmissing, -⟩ := check_verdict (declaring ["license", "links"])
  obtain ⟨-, hrepeated, -⟩ := check_verdict (declaring ["cvs"])
  have hcvs : ¬Fresh (declaring ["cvs"]).sections :=
    fun hfresh => hfresh.2 ⟨"cvs", "guide"⟩ (List.mem_singleton.2 rfl) (by decide)
  refine ⟨(hsucceeds pages (.refl _)).2 ⟨⟨by decide, by decide⟩, .inr (by decide)⟩,
    (hmissing ⟨by decide, by decide⟩ rfl).2.2.1 (by decide) (by decide), ?_⟩
  obtain ⟨before, s, after, first, hsplit, -, hmem, herror⟩ := hrepeated hcvs
  obtain ⟨rfl, hentry⟩ | ⟨-, hnone⟩ := List.singleton_eq_append_iff.1 hsplit
  · cases hentry
    have honce : ∀ d ∈ Toc.declarations pageSections [], d.1 = "cvs" → d.2 = "download" := by
      decide
    obtain rfl : first = "download" := honce _ hmem rfl
    exact herror pages
  · cases hnone

/-- **The home page is not always the one that is named**: if the workers meet the page of downloads
first, that page is, although the home page fails as well. -/
theorem not_always_the_home_page :
    ¬∀ (c : SiteConfig) (order : List Page), order.Perm pages → Fresh c.sections →
      c.links.unknownSections = .error → "license" ∉ c.sectionIds →
        checkSiteBy order c pages =
          .error (.render "index" (.link (.unknownSection "license"))) := by
  intro h
  have hfresh : Fresh (declaring []).sections := ⟨by decide, by decide⟩
  have horder : [download, home, questions].Perm pages := .swap _ _ _
  obtain ⟨toc, htoc⟩ := exists_toc hfresh
  have hdownload : (declaring []).FirstFailure toc [download, home, questions] download
      (.unknownSection "links") :=
    ⟨[], _, rfl, List.forall_mem_nil _, body_download_of_no_links htoc rfl (by decide)⟩
  -- a single worker fails like this with the pages in this order, and so do these workers
  have hsingle : checkSite (declaring []) [download, home, questions] =
      .error (.render "download" (.link (.unknownSection "links"))) :=
    Build.checkSiteBy_of_firstFailure (Site.tocOf_of_perm htoc horder) (.refl _) hdownload
  have hcheck := (Build.checkSiteBy_eq_error_iff_checkSite htoc horder).2 hsingle
  rw [h (declaring []) _ horder hfresh rfl (by decide)] at hcheck
  exact absurd (Except.error.inj hcheck) (by decide)

end Stock

end StaticSite
