import StaticSite.Proofs.Config.Validity
import StaticSite.Proofs.Manifest
import StaticSite.Proofs.Site

/-!
# Where internal links lead

A browser cuts an address at its first `#`: what stands before it is a file, or the page itself when
nothing does, and what stands behind it is a place in the file.

## The distinction that decides it

An internal link is `page.html#id`, or `#id` on the section's own page. It leads to its section
exactly when the `#` that was put in is the first one. Ids cannot hold another one, since validation
asks for that, but the page of a configured section can: validation asks only that it is not empty.
So the condition in `Links.internal_leads_iff` is on the page alone, and it is one that a valid
configuration may break (`Links.not_every_link_leads`).

What stands behind the *last* `#` is the id in every case, so even a link that leads elsewhere does
not lead to the place of another section.

## Main results

* `Links.internal_leads_iff` — where the link to a registered section leads
* `Links.not_every_link_leads` — a valid configuration with a section that no link leads to
-/

namespace StaticSite

/-- Where an address leads: a file, and a place in it. -/
structure Target where
  file : String
  fragment : String
deriving DecidableEq, Repr

namespace Anchor

/-- What stands before the first `#`. -/
def filePart (a : Anchor) : String :=
  String.ofList (a.href.toList.takeWhile (· != '#'))

/-- What stands behind the first `#`. -/
def fragmentPart (a : Anchor) : String :=
  String.ofList ((a.href.toList.dropWhile (· != '#')).drop 1)

/-- Where the link leads from a page; without a file it stays there. -/
def target (a : Anchor) (current : String) : Target where
  file := if a.filePart = "" then pageFile current else a.filePart
  fragment := a.fragmentPart

/-- An address is cut at its first `#`. -/
theorem parts_of_cut {a : Anchor} {file fragment : List Char}
    (hhref : a.href.toList = file ++ '#' :: fragment) (hfile : '#' ∉ file) :
    a.filePart = String.ofList file ∧ a.fragmentPart = String.ofList fragment := by
  have hpos : ∀ c ∈ file, (c != '#') = true := by
    intro c hc
    exact bne_iff_ne.2 fun heq => hfile (heq ▸ hc)
  rw [filePart, fragmentPart, hhref, List.takeWhile_append_of_pos hpos,
    List.dropWhile_append_of_pos hpos]
  simp

end Anchor

namespace Links

variable {l : Links} {id page : String}

/-- The link to a section on a page. -/
def anchorOn (l : Links) (page id : String) : Anchor :=
  { href := if l.isQualified page then pageFile page ++ "#" ++ id else "#" ++ id }

theorem internal_of_pageOf (h : l.toc.pageOf id = some page) :
    l.internal id = .ok (l.anchorOn page id) := by
  rw [internal, h]
  rfl

/-- A link without a file. -/
theorem parts_of_bare (hbare : l.isQualified page = false) :
    (l.anchorOn page id).filePart = "" ∧ (l.anchorOn page id).fragmentPart = id := by
  have hhref : (l.anchorOn page id).href.toList = [] ++ '#' :: id.toList := by
    simp [anchorOn, hbare]
  simpa using Anchor.parts_of_cut hhref List.not_mem_nil

/-- A link with a file whose name has no `#` before the one that was put in. -/
theorem parts_of_qualified (hqualified : l.isQualified page = true) (hpage : '#' ∉ page.toList) :
    (l.anchorOn page id).filePart = pageFile page ∧ (l.anchorOn page id).fragmentPart = id := by
  have hhref : (l.anchorOn page id).href.toList = (pageFile page).toList ++ '#' :: id.toList := by
    simp [anchorOn, hqualified]
  have hfile : '#' ∉ (pageFile page).toList := by
    rw [toList_pageFile, List.mem_append, not_or]
    exact ⟨hpage, by decide⟩
  simpa using Anchor.parts_of_cut hhref hfile

/-- With a file or without one, the place is the section. -/
theorem fragmentPart_anchorOn (hpage : '#' ∉ page.toList) :
    (l.anchorOn page id).fragmentPart = id := by
  cases hqualified : l.isQualified page with
  | false => exact (parts_of_bare hqualified).2
  | true => exact (parts_of_qualified hqualified hpage).2

/-- A link with a file whose name is cut by a `#` of its own. -/
theorem parts_of_cut_page (hqualified : l.isQualified page = true) {before behind : List Char}
    (hpage : page.toList = before ++ '#' :: behind) (hbefore : '#' ∉ before) :
    (l.anchorOn page id).filePart = String.ofList before ∧
      (l.anchorOn page id).fragmentPart =
        String.ofList (behind ++ ['.', 'h', 't', 'm', 'l'] ++ '#' :: id.toList) := by
  refine Anchor.parts_of_cut ?_ hbefore
  simp [anchorOn, hqualified, pageFile, hpage]

/-! ### The id in the address -/

/-- What stands behind the last `#`. -/
def behindLast (s : String) : String :=
  String.ofList (s.toList.reverse.takeWhile (· != '#')).reverse

theorem takeWhile_reverse_append (front : List Char) (hid : '#' ∉ id.toList) :
    (id.toList.reverse ++ front).takeWhile (· != '#') =
      id.toList.reverse ++ front.takeWhile (· != '#') := by
  refine List.takeWhile_append_of_pos fun c hc => ?_
  exact bne_iff_ne.2 fun heq => hid (heq ▸ List.mem_reverse.1 hc)

theorem behindLast_of_not_mem (hid : '#' ∉ id.toList) : behindLast id = id := by
  have h := takeWhile_reverse_append [] hid
  rw [List.append_nil, List.takeWhile_nil, List.append_nil] at h
  rw [behindLast, h, List.reverse_reverse, String.ofList_toList]

theorem behindLast_append (front : List Char) (hid : '#' ∉ id.toList) :
    behindLast (String.ofList (front ++ '#' :: id.toList)) = id := by
  have h := takeWhile_reverse_append ('#' :: front.reverse) hid
  rw [behindLast, String.toList_ofList, List.reverse_append, List.reverse_cons, List.append_assoc,
    List.singleton_append, h]
  simp

/-- **The id is in every address**, behind its last `#`. -/
theorem behindLast_fragmentPart (hid : '#' ∉ id.toList) :
    behindLast (l.anchorOn page id).fragmentPart = id := by
  cases hqualified : l.isQualified page with
  | false => rw [(parts_of_bare hqualified).2, behindLast_of_not_mem hid]
  | true =>
    by_cases hpage : '#' ∈ page.toList
    · obtain ⟨before, behind, hcut, hbefore⟩ := List.eq_append_cons_of_mem hpage
      rw [(parts_of_cut_page hqualified hcut hbefore).2, behindLast_append _ hid]
    · rw [(parts_of_qualified hqualified hpage).2, behindLast_of_not_mem hid]

/-! ### Which links name their file -/

theorem isQualified_of_ne (hstyle : l.policy.anchorStyle ≠ .fragment) (hne : page ≠ l.currentPage) :
    l.isQualified page = true := by
  rw [isQualified]
  cases h : l.policy.anchorStyle with
  | fragment => exact absurd h hstyle
  | qualified => rfl
  | auto => exact bne_iff_ne.2 hne

theorem isQualified_auto (hauto : l.policy.anchorStyle = .auto) :
    l.isQualified page = true ↔ page ≠ l.currentPage := by
  rw [isQualified, hauto]
  exact bne_iff_ne

theorem pageFile_ne_empty : pageFile page ≠ "" := by
  intro h
  have hlist := congrArg String.toList h
  rw [toList_pageFile] at hlist
  simp at hlist

/-- **Where a link leads**: to the page's file and the section's place, unless the page has a `#`. -/
theorem target_eq_iff (hcurrent : '#' ∉ l.currentPage.toList)
    (hstyle : l.policy.anchorStyle ≠ .fragment) :
    (l.anchorOn page id).target l.currentPage = ⟨pageFile page, id⟩ ↔ '#' ∉ page.toList := by
  constructor
  · intro htarget hpage
    have hne : page ≠ l.currentPage := fun heq => hcurrent (heq ▸ hpage)
    obtain ⟨before, behind, hcut, hbefore⟩ := List.eq_append_cons_of_mem hpage
    have hfragment := congrArg Target.fragment htarget
    rw [Anchor.target, (parts_of_cut_page (isQualified_of_ne hstyle hne) hcut hbefore).2]
      at hfragment
    -- The rest of the page's name is in front of the id, so the place is longer than the id.
    have hlength := congrArg (fun s : String => s.toList.length) hfragment
    simp only [String.toList_ofList, List.length_append, List.length_cons, List.length_nil]
      at hlength
    omega
  · intro hpage
    rw [Anchor.target]
    cases hqualified : l.isQualified page with
    | false =>
      have heq : page = l.currentPage := by
        refine Decidable.byContradiction fun hne => ?_
        rw [isQualified_of_ne hstyle hne] at hqualified
        cases hqualified
      rw [(parts_of_bare hqualified).1, (parts_of_bare hqualified).2, if_pos rfl, heq]
    | true =>
      rw [(parts_of_qualified hqualified hpage).1, (parts_of_qualified hqualified hpage).2,
        if_neg pageFile_ne_empty]

/-- The link to a section `x` of a page `a#b`. -/
example :
    (anchorOn { project := {}, policy := {}, toc := {}, currentPage := "index" } "a#b" "x").target
      "index" = ⟨"a", "b.html#x"⟩ := by decide

/-- **When a link stays on its page**: where the section is, or where a name starts with a `#`. -/
theorem filePart_eq_empty_iff (hauto : l.policy.anchorStyle = .auto) :
    (l.anchorOn page id).filePart = "" ↔
      page = l.currentPage ∨ page.toList.head? = some '#' := by
  by_cases heq : page = l.currentPage
  · have hbare : l.isQualified page = false := by
      rw [← Bool.not_eq_true, isQualified_auto hauto]
      exact not_not_intro heq
    exact iff_of_true (parts_of_bare hbare).1 (.inl heq)
  · have hqualified := (isQualified_auto hauto).2 heq
    by_cases hpage : '#' ∈ page.toList
    · obtain ⟨before, behind, hcut, hbefore⟩ := List.eq_append_cons_of_mem hpage
      rw [(parts_of_cut_page hqualified hcut hbefore).1, hcut]
      cases before with
      | nil => simp
      | cons c rest =>
        have hc : c ≠ '#' := fun h => hbefore (h ▸ List.mem_cons_self)
        simp [heq, hc]
    · have hhead : page.toList.head? ≠ some '#' := fun h => hpage (List.mem_of_head? h)
      rw [(parts_of_qualified hqualified hpage).1]
      simp [heq, hhead, pageFile_ne_empty]

/-! ### The links of a site -/

variable {config : SiteConfig} {pages : List Page} {site : Site}

/-- No registered id has a `#`: the pages are asked for it, and validation asks the configuration. -/
theorem not_mem_of_pageOf (hvalid : config.validate = .ok ())
    (hpages : ∀ p ∈ pages, '#' ∉ p.slug.toList ∧ ∀ id ∈ p.sections, '#' ∉ id.toList)
    (hsite : Site.assemble config pages = .ok site) (hid : site.toc.pageOf id = some page) :
    '#' ∉ id.toList := by
  rcases Site.declared_of_pageOf hsite hid with ⟨p, hp, -, hmem⟩ | hsection
  · exact (hpages p hp).2 id hmem
  · have hfault := (SiteConfig.validate_eq_ok_iff.1 hvalid).2 _ hsection
    exact (SectionEntry.fault?_eq_none_iff.1 hfault).2.1

/-- **Where the links of a site lead.** The link to a registered section is there, and it leads to
the section's page and place exactly when the page has no `#`. Under the automatic style it stays on
the page that it stands on when the section is there, or when the page starts with a `#`. And
whatever the pages are, links to different sections lead to different targets, wherever they
stand. -/
theorem internal_leads_iff (hvalid : config.validate = .ok ())
    (hpages : ∀ p ∈ pages, '#' ∉ p.slug.toList ∧ ∀ id ∈ p.sections, '#' ∉ id.toList)
    (hsite : Site.assemble config pages = .ok site)
    (hstyle : config.links.anchorStyle ≠ .fragment) (project : Project) {current : Page}
    (hcurrent : current ∈ pages) (hid : site.toc.pageOf id = some page) :
    ∃ a, (Shell.links site.context project current.navEntry).internal id = .ok a ∧
      (a.target current.slug = ⟨pageFile page, id⟩ ↔ '#' ∉ page.toList) ∧
      (config.links.anchorStyle = .auto →
        (a.filePart = "" ↔ page = current.slug ∨ page.toList.head? = some '#')) ∧
      ∀ (other : Page) id' page' a', site.toc.pageOf id' = some page' →
        (Shell.links site.context project other.navEntry).internal id' = .ok a' →
        a'.target other.slug = a.target current.slug → id' = id := by
  have hhash := not_mem_of_pageOf hvalid hpages hsite hid
  have hslug := (hpages current hcurrent).1
  obtain ⟨toc, htoc, rfl⟩ := Site.assemble_eq_ok_iff.1 hsite
  refine ⟨_, internal_of_pageOf hid, target_eq_iff hslug hstyle,
    fun hauto => filePart_eq_empty_iff hauto, ?_⟩
  intro other id' page' a' hid' ha' htarget
  have hhash' := not_mem_of_pageOf hvalid hpages hsite hid'
  cases (internal_of_pageOf hid').symm.trans ha'
  have hfragment := congrArg Target.fragment htarget
  simp only [Anchor.target] at hfragment
  rw [← behindLast_fragmentPart hhash', hfragment, behindLast_fragmentPart hhash]

/-- A page with a section of its own. -/
def startPage : Page where
  slug := "index"
  title := "Start"
  sections := ["news"]
  body := fun _ => .ok {}

/-- A configuration that declares a section on a page with a `#`, and another one. -/
def hashedPage : SiteConfig where
  sections := [⟨"faq", "help"⟩, ⟨"x", "a#b"⟩]

theorem hash_not_mem_startPage :
    ∀ p ∈ [startPage], '#' ∉ p.slug.toList ∧ ∀ id ∈ p.sections, '#' ∉ id.toList := by
  intro p hp
  cases List.mem_singleton.1 hp
  decide

/-- The site of the page and the configuration. -/
theorem exists_hashedPage_site :
    ∃ site, Site.assemble hashedPage [startPage] = .ok site ∧
      site.toc.pageOf "faq" = some "help" ∧ site.toc.pageOf "x" = some "a#b" :=
  ⟨_, rfl, rfl, rfl⟩

theorem internal_leads_iff_startPage :
    ∃ site a, Site.assemble hashedPage [startPage] = .ok site ∧
      (Shell.links site.context {} startPage.navEntry).internal "faq" = .ok a ∧
      a.target "index" = ⟨"help.html", "faq"⟩ := by
  obtain ⟨site, hsite, hfaq, -⟩ := exists_hashedPage_site
  obtain ⟨a, ha, htarget, -⟩ := internal_leads_iff rfl hash_not_mem_startPage hsite
    (by decide) {} List.mem_cons_self hfaq
  exact ⟨site, a, hsite, ha, htarget.2 (by decide)⟩

/-- A valid configuration can have a section that no link leads to. -/
theorem not_every_link_leads :
    ¬∀ (config : SiteConfig) (pages : List Page) (site : Site) (project : Project)
      (current : Page) (id page : String), config.validate = .ok () →
      (∀ p ∈ pages, '#' ∉ p.slug.toList ∧ ∀ id ∈ p.sections, '#' ∉ id.toList) →
      Site.assemble config pages = .ok site → config.links.anchorStyle ≠ .fragment →
      current ∈ pages → site.toc.pageOf id = some page →
      ∃ a, (Shell.links site.context project current.navEntry).internal id = .ok a ∧
        a.target current.slug = ⟨pageFile page, id⟩ := by
  intro hall
  obtain ⟨site, hsite, -, hx⟩ := exists_hashedPage_site
  obtain ⟨a, ha, htarget⟩ := hall hashedPage [startPage] site {} startPage "x" "a#b" rfl
    hash_not_mem_startPage hsite (by decide) List.mem_cons_self hx
  cases (internal_of_pageOf hx).symm.trans ha
  obtain ⟨toc, -, rfl⟩ := Site.assemble_eq_ok_iff.1 hsite
  have hslug : '#' ∉ startPage.slug.toList := by decide
  have hstyle : hashedPage.links.anchorStyle ≠ .fragment := by decide
  exact absurd ((target_eq_iff hslug hstyle).1 htarget) (by decide)

end Links

end StaticSite
