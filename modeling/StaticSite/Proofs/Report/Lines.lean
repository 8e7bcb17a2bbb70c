import StaticSite.Proofs.Build.Refusal
import StaticSite.Proofs.Links
import StaticSite.Report.Lines

/-!
# What a check says about sections

A check reports the sections of each page that it has rendered, and after the pages it lists the
sections that live elsewhere. Both lists come out of the table of contents by a filter of their own:
one asks for the page of a section, the other asks that the page is none of those in the report.

## Why nothing is listed twice

A section of the table lives on one page (`Toc.pageOf` is a function of the id). So it is on the
list of that page and of no other, and it is outside exactly when that page is not in the report.
The slugs have to be distinct for this: two pages with one slug would both list its sections.

## Reading the lines again

The lines of the pages are never empty, so the first empty line is where the rest begins, and
whatever the project, the titles and the sections are called, the block of the sections outside can
be told from the lines alone (`Report.outsideBlock?`).

## Main results

* `Toc.perm_sectionsOn_outside` — each section is on one of the pages or outside, once
* `Report.outsideBlock?_checkLines` — the block that the lines of a check hold
* `Links.internal_of_ne` — the link to a section outside, from every page
* `Report.check_accounts` — a check accounts for every section
-/

namespace StaticSite

/-! ### The sections of pages and the sections outside -/

namespace Toc

variable {t : Toc} {id page : String} {built : List String}

theorem mem_sectionsOn_iff : id ∈ t.sectionsOn page ↔ t.pageOf id = some page := by
  rw [pageOf_eq_some_iff, sectionsOn, List.mem_map]
  constructor
  · rintro ⟨⟨i, p⟩, hfilter, rfl⟩
    obtain ⟨he, hpage⟩ := List.mem_filter.1 hfilter
    have heq : p = page := by simpa using hpage
    exact heq ▸ he
  · intro he
    exact ⟨(id, page), List.mem_filter.2 ⟨he, beq_self_eq_true page⟩, rfl⟩

theorem mem_outside_iff :
    (id, page) ∈ t.outside built ↔ t.pageOf id = some page ∧ page ∉ built := by
  rw [pageOf_eq_some_iff, outside, List.mem_filter]
  simp

/-- The ids of a part of the table are in the order of the bytes. -/
theorem ascending_of_sublist {entries : List (String × String)} (h : entries.Sublist t.entries) :
    (entries.map Prod.fst).Pairwise fun a b => Text.utf8Bytes a < Text.utf8Bytes b :=
  List.pairwise_map.2 (t.ascending_entries.sublist h)

theorem sublist_sectionsOn (t : Toc) (page : String) :
    (t.sectionsOn page).Sublist (t.entries.map Prod.fst) :=
  List.filter_sublist.map _

theorem sublist_outside (t : Toc) (built : List String) :
    ((t.outside built).map Prod.fst).Sublist (t.entries.map Prod.fst) :=
  List.filter_sublist.map _

/-- Different pages have no section in common. -/
theorem disjoint_sectionsOn {page' : String} (h : page ≠ page') :
    List.Disjoint (t.sectionsOn page) (t.sectionsOn page') := by
  intro id hid hid'
  have heq := (mem_sectionsOn_iff.1 hid).symm.trans (mem_sectionsOn_iff.1 hid')
  exact h (Option.some.inj heq)

theorem nodup_flatMap_sectionsOn (h : built.Nodup) : (built.flatMap t.sectionsOn).Nodup := by
  refine List.nodup_flatMap.2 ⟨fun page _ => ?_, ?_⟩
  · exact t.nodup_entries.sublist (t.sublist_sectionsOn page)
  · exact (List.nodup_iff_pairwise_ne.1 h).imp fun hne => disjoint_sectionsOn hne

/-- **Each section is on one of the pages or outside, once.** -/
theorem perm_sectionsOn_outside (t : Toc) (h : built.Nodup) :
    (built.flatMap t.sectionsOn ++ (t.outside built).map Prod.fst).Perm
      (t.entries.map Prod.fst) := by
  have hdisjoint : List.Disjoint (built.flatMap t.sectionsOn) ((t.outside built).map Prod.fst) := by
    intro id hon hout
    obtain ⟨page, hpage, hid⟩ := List.mem_flatMap.1 hon
    obtain ⟨⟨i, page'⟩, he, rfl⟩ := List.mem_map.1 hout
    obtain ⟨hid', hnot⟩ := mem_outside_iff.1 he
    have heq := (mem_sectionsOn_iff.1 hid).symm.trans hid'
    exact hnot (Option.some.inj heq ▸ hpage)
  have hnodup : (built.flatMap t.sectionsOn ++ (t.outside built).map Prod.fst).Nodup :=
    List.nodup_append'.2 ⟨nodup_flatMap_sectionsOn h,
      t.nodup_entries.sublist (t.sublist_outside built), hdisjoint⟩
  refine (List.perm_ext_iff_of_nodup hnodup t.nodup_entries).2 fun id => ?_
  rw [List.mem_append]
  constructor
  · rintro (hon | hout)
    · obtain ⟨page, -, hid⟩ := List.mem_flatMap.1 hon
      exact (t.sublist_sectionsOn page).subset hid
    · exact (t.sublist_outside built).subset hout
  · intro hid
    obtain ⟨⟨i, page⟩, he, rfl⟩ := List.mem_map.1 hid
    have hpage := pageOf_eq_some_iff.2 he
    by_cases hbuilt : page ∈ built
    · exact .inl (List.mem_flatMap.2 ⟨page, hbuilt, mem_sectionsOn_iff.2 hpage⟩)
    · exact .inr (List.mem_map.2 ⟨(i, page), mem_outside_iff.2 ⟨hpage, hbuilt⟩, rfl⟩)

end Toc

/-! ### The lines of a check -/

namespace Report

variable {r : SiteReport} {toc : Toc}

/-- What stands behind the first empty line. -/
def behindHead (lines : List String) : List String :=
  (lines.dropWhile (· != "")).drop 1

/-- The lines below the heading of the sections outside, if there is one behind the pages. -/
def outsideBlock? (lines : List String) : Option (List String) :=
  match behindHead lines with
  | heading :: rest =>
    if heading = "External sections" then some (rest.takeWhile (· != "")) else none
  | [] => none

/-- The line of a section, by the target that is shown for it. -/
def targetLine (id target : String) : String :=
  String.join ["    ", id, " → ", target, " (not built)"]

/-- The address of a section on another page. -/
def qualifiedTarget (id page : String) : String := pageFile page ++ "#" ++ id

theorem outsideLine_eq (id page : String) :
    outsideLine id page = targetLine id (qualifiedTarget id page) := by
  simp [outsideLine, targetLine, qualifiedTarget, String.join, String.append_assoc]

theorem targetLine_ne_empty (id target : String) : targetLine id target ≠ "" := by
  simp [targetLine]

theorem ne_empty_of_mem_pageLines {n : Nat} {p : PageReport} :
    ∀ line ∈ pageLines n p, line ≠ "" := by
  intro line hline
  rw [pageLines] at hline
  rcases List.mem_cons.1 hline with rfl | hline
  · simp
  · split at hline
    · cases hline
    · cases List.mem_singleton.1 hline
      simp

theorem ne_empty_of_mem_pagesLines {reports : List PageReport} {n : Nat} :
    ∀ line ∈ pagesLines n reports, line ≠ "" := by
  induction reports generalizing n with
  | nil => exact fun line hline => absurd hline List.not_mem_nil
  | cons p rest ih =>
    intro line hline
    rw [pagesLines] at hline
    rcases List.mem_append.1 hline with hpage | hrest
    · exact ne_empty_of_mem_pageLines line hpage
    · exact ih line hrest

/-- No line of the pages is empty. -/
theorem ne_empty_of_mem_headLines (r : SiteReport) : ∀ line ∈ headLines r, line ≠ "" := by
  intro line hline
  rw [headLines] at hline
  rcases List.mem_cons.1 hline with rfl | hpages
  · simp
  · exact ne_empty_of_mem_pagesLines line hpages

/-- The lines of the pages end at the first empty line. -/
theorem behindHead_append (r : SiteReport) (rest : List String) :
    behindHead (headLines r ++ "" :: rest) = rest := by
  have hhead : ∀ line ∈ headLines r, (line != "") = true :=
    fun line hline => bne_iff_ne.2 (ne_empty_of_mem_headLines r line hline)
  rw [behindHead, List.dropWhile_append_of_pos hhead]
  simp

theorem checkSummary_ne_heading (r : SiteReport) (toc : Toc) :
    checkSummary r toc ≠ "External sections" := by
  intro h
  have hfirst := congrArg (fun s : String => s.toList.head?) h
  simp [checkSummary] at hfirst

/-- **The block of the sections outside**, read from the lines of a check. -/
theorem outsideBlock?_checkLines (r : SiteReport) (toc : Toc) :
    outsideBlock? (checkLines r toc) =
      if outsideSections r toc = [] then none
      else some ((outsideSections r toc).map fun e =>
        targetLine e.1 (qualifiedTarget e.1 e.2)) := by
  rw [checkLines, outsideLines, List.append_assoc]
  cases hout : outsideSections r toc with
  | nil =>
    rw [List.nil_append, outsideBlock?, behindHead_append]
    simp [checkSummary_ne_heading]
  | cons e rest =>
    have hlines : ∀ line ∈ (e :: rest).map fun e => outsideLine e.1 e.2, (line != "") = true := by
      intro line hline
      obtain ⟨e, -, rfl⟩ := List.mem_map.1 hline
      rw [outsideLine_eq]
      exact bne_iff_ne.2 (targetLine_ne_empty _ _)
    rw [List.cons_append, outsideBlock?, behindHead_append, List.cons_append]
    simp only [if_pos, reduceCtorEq, if_false, Option.some.injEq]
    rw [List.takeWhile_append_of_pos hlines]
    simp [outsideLine_eq]

end Report

/-! ### The links to sections outside -/

/-- **The link to a section of another page** is the same from every page and under every style that
names files. -/
theorem Links.internal_of_ne {l : Links} {id page : String} (hid : l.toc.pageOf id = some page)
    (hstyle : l.policy.anchorStyle ≠ .fragment) (hne : page ≠ l.currentPage) :
    l.internal id = .ok { href := Report.qualifiedTarget id page } := by
  rw [internal_of_pageOf hid, anchorOn, isQualified_of_ne hstyle hne]
  rfl

/-! ### Checks -/

namespace Report

variable {config : SiteConfig} {pages : List Page} {site : Site} {report : SiteReport}

/-- **What a check reports** of each page: its slug, and the sections that the table has for it. -/
theorem reports_of_check (h : (Build.check site pages).2 = .ok report) :
    report.pages.map PageReport.slug = pages.map Page.slug ∧
      ∀ q ∈ report.pages, q.sections = site.toc.sectionsOn q.slug := by
  rw [Build.check, Build.checkBy, Site.renderAllBy_self] at h
  cases hr : site.renderAll pages with
  | error e =>
    rw [hr] at h
    cases h
  | ok rendered =>
    rw [hr] at h
    obtain ⟨hmap, -⟩ := Site.renderAll_eq_ok_iff.1 hr
    have hpages : report.pages = rendered.map fun q => Build.pageReport site.toc q .checked := by
      simp only [Build.siteReport] at h
      split at h
      · cases h
        rfl
      · cases h
    rw [hpages, ← hmap, List.map_map, List.map_map]
    refine ⟨rfl, fun q hq => ?_⟩
    obtain ⟨q', -, rfl⟩ := List.mem_map.1 hq
    rfl

theorem getLast?_checkLines (r : SiteReport) (toc : Toc) :
    (checkLines r toc).getLast? = some (checkSummary r toc) := by
  rw [checkLines, List.getLast?_append]
  rfl

/-- **A check accounts for every section.** The sections of the pages in the report and the sections
outside are the sections of the table, each once and each list in the order of the bytes, and their
number is the one in the last line. The block of the sections outside is there exactly when there
are some, and the target that it shows for a section is the address that the link to the section
has on every page, whatever style that names files is in use. -/
theorem check_accounts (hcheck : (Build.check site pages).2 = .ok report)
    (hnodup : (pages.map Page.slug).Nodup) :
    ∃ outside : List (String × String),
      (∀ id page, (id, page) ∈ outside ↔
        site.toc.pageOf id = some page ∧ page ∉ pages.map Page.slug) ∧
      (report.pages.flatMap PageReport.sections ++ outside.map Prod.fst).Perm
        (site.toc.entries.map Prod.fst) ∧
      (report.pages.flatMap PageReport.sections ++ outside.map Prod.fst).Nodup ∧
      (∀ q ∈ report.pages,
        q.sections.Pairwise fun a b => Text.utf8Bytes a < Text.utf8Bytes b) ∧
      ((outside.map Prod.fst).Pairwise fun a b => Text.utf8Bytes a < Text.utf8Bytes b) ∧
      ((outsideBlock? (checkLines report site.toc)).isSome ↔
        ∃ id page, site.toc.pageOf id = some page ∧ page ∉ pages.map Page.slug) ∧
      (∀ block, outsideBlock? (checkLines report site.toc) = some block →
        block = outside.map fun e => targetLine e.1 (qualifiedTarget e.1 e.2)) ∧
      (checkLines report site.toc).getLast? = some (String.join
        ["Checked ", counted pages.length "page", ", ",
          counted (report.pages.flatMap PageReport.sections ++ outside.map Prod.fst).length
            "section"]) ∧
      ∀ e ∈ outside, ∀ p ∈ pages, ∀ (policy : LinkPolicy) (project : Project),
        policy.anchorStyle ≠ .fragment →
          (Shell.links { site.context with policy } project p.navEntry).internal e.1 =
            .ok { href := qualifiedTarget e.1 e.2 } := by
  obtain ⟨hslugs, hsections⟩ := reports_of_check hcheck
  have hon : report.pages.flatMap PageReport.sections =
      (pages.map Page.slug).flatMap site.toc.sectionsOn := by
    rw [← hslugs, List.flatMap_map]
    exact List.flatMap_congr hsections
  have hout : outsideSections report site.toc = site.toc.outside (pages.map Page.slug) := by
    rw [outsideSections, hslugs]
  have hperm := site.toc.perm_sectionsOn_outside hnodup
  have hmem : ∀ id page, (id, page) ∈ site.toc.outside (pages.map Page.slug) ↔
      site.toc.pageOf id = some page ∧ page ∉ pages.map Page.slug :=
    fun id page => Toc.mem_outside_iff
  refine ⟨site.toc.outside (pages.map Page.slug), hmem, ?_, ?_, ?_, ?_, ?_, ?_, ?_, ?_⟩
  · rw [hon]
    exact hperm
  · rw [hon]
    exact hperm.nodup_iff.2 site.toc.nodup_entries
  · intro q hq
    rw [hsections q hq]
    exact Toc.ascending_of_sublist List.filter_sublist
  · exact Toc.ascending_of_sublist List.filter_sublist
  · rw [outsideBlock?_checkLines, hout]
    constructor
    · intro hsome
      have hne : site.toc.outside (pages.map Page.slug) ≠ [] := by
        intro hnil
        rw [if_pos hnil] at hsome
        cases hsome
      obtain ⟨⟨id, page⟩, he⟩ := List.exists_mem_of_ne_nil _ hne
      exact ⟨id, page, (hmem id page).1 he⟩
    · rintro ⟨id, page, hid⟩
      rw [if_neg (List.ne_nil_of_mem ((hmem id page).2 hid))]
      rfl
  · intro block hblock
    rw [outsideBlock?_checkLines, hout] at hblock
    split at hblock
    · cases hblock
    · exact (Option.some.inj hblock).symm
  · have hlength : report.pages.length = pages.length := by
      simpa using congrArg List.length hslugs
    have hsize : site.toc.size = (report.pages.flatMap PageReport.sections ++
        (site.toc.outside (pages.map Page.slug)).map Prod.fst).length := by
      rw [hon, hperm.length_eq, List.length_map, Toc.size]
    rw [getLast?_checkLines, checkSummary, hlength, hsize]
  · intro e he p hp policy project hstyle
    obtain ⟨hid, hnot⟩ := (hmem e.1 e.2).1 he
    refine Links.internal_of_ne hid hstyle fun heq => hnot ?_
    exact heq ▸ List.mem_map_of_mem hp

theorem check_accounts_startPage :
    ∃ site report, Site.assemble Links.hashedPage [Links.startPage] = .ok site ∧
      (Build.check site [Links.startPage]).2 = .ok report ∧
      ([Links.startPage].map Page.slug).Nodup ∧
      (∃ block, outsideBlock? (checkLines report site.toc) = some block ∧
        targetLine "x" "a#b.html#x" ∈ block) ∧
      (Shell.links { site.context with policy := { anchorStyle := .qualified } } {}
        Links.startPage.navEntry).internal "x" = .ok { href := "a#b.html#x" } := by
  obtain ⟨site, hsite, -, hx⟩ := Links.exists_hashedPage_site
  obtain ⟨toc, htoc, rfl⟩ := Site.assemble_eq_ok_iff.1 hsite
  have hrenders : ∀ p ∈ [Links.startPage], Links.hashedPage.Renders toc p := by
    intro p hp
    cases List.mem_singleton.1 hp
    exact ⟨_, rfl⟩
  obtain ⟨report, hcheck⟩ := Build.check_of_renders hrenders
  have hnodup : ([Links.startPage].map Page.slug).Nodup := by decide
  obtain ⟨outside, hmem, -, -, -, -, hpresent, hblock, -, hlinks⟩ := check_accounts hcheck hnodup
  have hout : ("x", "a#b") ∈ outside := (hmem _ _).2 ⟨hx, by decide⟩
  obtain ⟨block, hread⟩ := Option.isSome_iff_exists.1 (hpresent.2 ⟨"x", "a#b", hx, by decide⟩)
  have hline : targetLine "x" "a#b.html#x" ∈ block := by
    rw [hblock block hread]
    exact List.mem_map.2 ⟨("x", "a#b"), hout, rfl⟩
  have hlink := hlinks _ hout _ List.mem_cons_self { anchorStyle := .qualified } {} (by decide)
  exact ⟨_, report, hsite, hcheck, hnodup, ⟨block, hread, hline⟩, hlink⟩

end Report

end StaticSite
