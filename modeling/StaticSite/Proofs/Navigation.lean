import StaticSite.Proofs.Html.Reading
import StaticSite.Proofs.Site
import StaticSite.Proofs.Text.Letters

/-!
# The navigation list, read back

Slugs and titles are any texts, and they come to stand between tags and between the quotes of an
attribute. So a title may look like the end of an item, and a slug like the mark of the current
page. A reader that knows only HTML is not misled by them: from the html it gets the entries back.

## Two forms of a header

A header is made of parts that are joined, and the boundaries of the parts are not those of the
tags. For a reader it is a list of pieces, `headerPieces`, with the same characters:
`toList_header`. Everything that is read is then read off the pieces. The same holds for the
navigation list on its own, where the attribute that marks the current page is in the pieces of one
item or is not there at all.

## Why the body does not matter

The navigation stands in the header, and the header ends with a tag. Its pieces are complete before
the body begins, so whatever the body is, even one with a navigation of its own, the first
navigation of the page is that of the header.

## Main results

* `Shell.toList_nav`, `Shell.toList_header` — what is written, as pieces
* `Shell.pieces_nav`, `Shell.pieces_header` — what is read
* `Shell.listItems_navPieces` — the items of a list are its entries
* `Shell.siteNav?_header_append` — the navigation of a page is that of its header
* `Shell.nav_reads_back` — all of it, for lists and for the pages of a site
-/

namespace StaticSite.Shell

open Html

variable {items : List NavEntry} {current : String} {e : NavEntry} {site : SiteMeta} {p : Project}
  {page : NavEntry} {pages : List Page}

/-! ### What a reader makes of a navigation list -/

/-- What a reader finds in an item of a list. -/
structure ListItem where
  /-- Whether the item is marked as the current one. -/
  current : Bool
  /-- The links of the item, each with its target and its text. -/
  links : List (Option String × String)
deriving DecidableEq, Repr

/-- What there is in an element. -/
def ListItem.ofElement (li : Element) : ListItem where
  current := li.attribute? "class" == some "current"
  links := (elements "a" li.inside).map fun a => (a.attribute? "href", a.text)

/-- The items of a list, in order. -/
def listItems (ps : List Piece) : List ListItem :=
  (elements "li" ps).map .ofElement

/-- The navigation of a page: the first element that says it is. -/
def siteNav? (html : String) : Option Element :=
  (elements "nav" (pieces html)).find? fun nav => nav.attribute? "class" == some "site-nav"

/-- What a reader should find for an entry. -/
def itemOf (current : String) (e : NavEntry) : ListItem where
  current := e.slug == current
  links := [(some e.file, e.title)]

/-! ### The pieces of a header -/

/-- The pieces of an item. The mark of the current page is an attribute that others do not have. -/
def itemPieces (current : String) (e : NavEntry) : List Piece :=
  [{ tag := .opening "li" (if e.slug = current then [("class", "current")] else []) },
    { tag := .opening "a" [("href", escape e.file)] },
    { front := escape e.title, tag := .closing "a" },
    { tag := .closing "li" }]

def navPieces (items : List NavEntry) (current : String) : List Piece :=
  { tag := .opening "ul" [] } :: items.flatMap (itemPieces current) ++ [{ tag := .closing "ul" }]

def taglinePieces (site : SiteMeta) : List Piece :=
  if site.tagline = "" then []
  else
    [{ tag := .opening "span" [("class", "tagline")] },
      { front := escape site.tagline, tag := .closing "span" }]

/-- The pieces in front of the navigation. -/
def headPieces (site : SiteMeta) (p : Project) (page : NavEntry) : List Piece :=
  [{ tag := .declaration "DOCTYPE html" },
    { tag := .opening "html" [("lang", escape site.lang)] },
    { tag := .opening "head" [] },
    { tag := .opening "meta" [("charset", "UTF-8")] },
    { tag := .opening "meta"
        [("name", "viewport"), ("content", "width=device-width, initial-scale=1.0")] },
    { tag := .opening "meta"
        [("name", "generator"), ("content", String.join [escape p.name, " ", escape p.version])] },
    { tag := .opening "title" [] },
    { front := escape (documentTitle site page), tag := .closing "title" },
    { tag := .opening "style" [] },
    { front := stylesheet, tag := .closing "style" },
    { tag := .closing "head" },
    { tag := .opening "body" [] },
    { tag := .opening "header" [("class", "site-header")] },
    { tag := .opening "div" [("class", "site-title")] },
    { tag := .opening "a" [("href", "index.html")] },
    { front := escape site.title, tag := .closing "a" }] ++ taglinePieces site ++
  [{ tag := .closing "div" }]

def headerPieces (site : SiteMeta) (items : List NavEntry) (p : Project) (page : NavEntry) :
    List Piece :=
  headPieces site p page ++ { tag := .opening "nav" [("class", "site-nav")] } ::
    (navPieces items page.slug ++
      [{ tag := .closing "nav" }, { tag := .closing "header" },
        { tag := .opening "main" [("class", String.join ["page page-", escape page.slug])] }])

theorem toList_navItem (current : String) (e : NavEntry) :
    (navItem current e).toList = (itemPieces current e).flatMap Piece.chars := by
  by_cases h : e.slug = current <;>
    simp [navItem, itemPieces, Piece.chars, Tag.chars, attributeChars, h]

theorem toList_nav (items : List NavEntry) (current : String) :
    (nav items current).toList = (navPieces items current).flatMap Piece.chars := by
  have hitems : (String.join (items.map (navItem current))).toList =
      (items.flatMap (itemPieces current)).flatMap Piece.chars := by
    induction items with
    | nil => rfl
    | cons e rest ih =>
      rw [List.map_cons, String.join_cons, String.toList_append, ih, toList_navItem,
        List.flatMap_cons, List.flatMap_append]
  simp [nav, hitems, navPieces, Piece.chars, Tag.chars]

theorem toList_tagline (site : SiteMeta) :
    (tagline site).toList = (taglinePieces site).flatMap Piece.chars := by
  by_cases h : site.tagline = "" <;>
    simp [tagline, taglinePieces, Piece.chars, Tag.chars, attributeChars, h]

theorem toList_header (site : SiteMeta) (items : List NavEntry) (p : Project) (page : NavEntry) :
    (header site items p page).toList = (headerPieces site items p page).flatMap Piece.chars := by
  simp [header, headerPieces, headPieces, toList_nav, toList_tagline, Piece.chars, Tag.chars,
    attributeChars]

/-! ### Reading it back -/

theorem lt_not_mem_stylesheet : '<' ∉ stylesheet.toList := by
  rw [stylesheet, Text.toList_unlines, Text.Spelled.map_toList (by repeat constructor)]
  decide +kernel

theorem forall_mem_navPieces {P : Piece → Prop} (hopening : P { tag := .opening "ul" [] })
    (hclosing : P { tag := .closing "ul" }) (hitem : ∀ e, ∀ q ∈ itemPieces current e, P q)
    (items : List NavEntry) : ∀ q ∈ navPieces items current, P q := by
  intro q hq
  simp only [navPieces, List.cons_append, List.mem_cons, List.mem_append, List.mem_flatMap,
    List.not_mem_nil, or_false] at hq
  rcases hq with rfl | ⟨e, -, hq⟩ | rfl
  · exact hopening
  · exact hitem e q hq
  · exact hclosing

theorem proper_navPieces (items : List NavEntry) (current : String) :
    ∀ q ∈ navPieces items current, q.Proper := by
  refine forall_mem_navPieces ?_ ?_ (fun e => ?_) items
  · simp [Piece.Proper, Tag.Proper, IsName]
  · simp [Piece.Proper, Tag.Proper, IsName]
  · by_cases h : e.slug = current <;> simp [itemPieces, Piece.Proper, Tag.Proper, IsName, h]

theorem proper_headPieces (site : SiteMeta) (p : Project) (page : NavEntry) :
    ∀ q ∈ headPieces site p page, q.Proper := by
  have htagline : ∀ q ∈ taglinePieces site, q.Proper := by
    by_cases h : site.tagline = "" <;>
      simp [taglinePieces, Piece.Proper, Tag.Proper, IsName, h]
  refine List.forall_mem_append.2 ⟨List.forall_mem_append.2 ⟨?_, htagline⟩, ?_⟩
  · simp only [List.forall_mem_cons, Piece.Proper, Tag.Proper]
    simp [IsName, lt_not_mem_stylesheet]
  · simp [Piece.Proper, Tag.Proper, IsName]

/-- A navigation list is read as the pieces it was written as. -/
theorem pieces_nav (items : List NavEntry) (current : String) :
    pieces (nav items current) = navPieces items current :=
  pieces_of_toList_eq (toList_nav items current) (proper_navPieces items current)

theorem proper_headerPieces (site : SiteMeta) (items : List NavEntry) (p : Project)
    (page : NavEntry) : ∀ q ∈ headerPieces site items p page, q.Proper := by
  refine List.forall_mem_append.2 ⟨proper_headPieces site p page, ?_⟩
  refine List.forall_mem_cons.2 ⟨?_, List.forall_mem_append.2
    ⟨proper_navPieces items page.slug, ?_⟩⟩
  · simp [Piece.Proper, Tag.Proper, IsName]
  · simp only [List.forall_mem_cons, Piece.Proper, Tag.Proper]
    simp [IsName]

/-- A header is read as the pieces it was written as. -/
theorem pieces_header (site : SiteMeta) (items : List NavEntry) (p : Project) (page : NavEntry) :
    pieces (header site items p page) = headerPieces site items p page :=
  pieces_of_toList_eq (toList_header site items p page) (proper_headerPieces site items p page)

/-! ### The items of a list -/

/-- One item is read, whatever comes behind it. -/
theorem listItems_itemPieces (current : String) (e : NavEntry) (rest : List Piece) :
    listItems (itemPieces current e ++ rest) = itemOf current e :: listItems rest := by
  have hmark : unescape "current" = "current" := by decide
  by_cases h : e.slug = current <;>
    simp [listItems, itemPieces, itemOf, elements, Tag.opening?, upTo, ListItem.ofElement,
      Element.attribute?, Element.text, hmark, h]

/-- **The items of a navigation list** are its entries, in their order. -/
theorem listItems_navPieces (items : List NavEntry) (current : String) {rest : List Piece}
    (hrest : ∀ q ∈ rest, q.tag.opening? "li" = none) :
    listItems (navPieces items current ++ rest) = items.map (itemOf current) := by
  have hitems : ∀ items : List NavEntry,
      listItems (items.flatMap (itemPieces current) ++ { tag := .closing "ul" } :: rest) =
        items.map (itemOf current) := by
    intro items
    induction items with
    | nil =>
      have hnone : elements "li" rest = [] := by
        rw [← List.append_nil rest, elements_append hrest]
        rfl
      exact congrArg (List.map ListItem.ofElement) hnone
    | cons e others ih =>
      rw [List.flatMap_cons, List.append_assoc, listItems_itemPieces, ih, List.map_cons]
  have hlist : navPieces items current ++ rest = { tag := .opening "ul" [] } ::
      (items.flatMap (itemPieces current) ++ { tag := .closing "ul" } :: rest) := by
    simp [navPieces]
  rw [hlist, ← hitems items]
  rfl

/-! ### The navigation of a page -/

theorem opening?_nav_headPieces (site : SiteMeta) (p : Project) (page : NavEntry) :
    ∀ q ∈ headPieces site p page, q.tag.opening? "nav" = none := by
  have htagline : ∀ q ∈ taglinePieces site, q.tag.opening? "nav" = none := by
    by_cases h : site.tagline = "" <;> simp [taglinePieces, Tag.opening?, h]
  refine List.forall_mem_append.2 ⟨List.forall_mem_append.2 ⟨?_, htagline⟩, by decide⟩
  simp [Tag.opening?]

theorem tag_ne_closing_nav (items : List NavEntry) (current : String) :
    ∀ q ∈ navPieces items current, q.tag ≠ .closing "nav" :=
  forall_mem_navPieces (by decide) (by decide) (fun e => by simp [itemPieces]) items

/-- **The navigation of a page** is found in its header, whatever the body is. -/
theorem siteNav?_header_append (site : SiteMeta) (items : List NavEntry) (p : Project)
    (page : NavEntry) (rest : String) :
    siteNav? (header site items p page ++ rest) = some {
      attributes := [("class", "site-nav")]
      inside := navPieces items page.slug ++ [{ tag := .closing "nav" }] } := by
  obtain ⟨more, hmore⟩ := prefix_pieces_append (header site items p page) rest
  rw [pieces_header, headerPieces, List.append_assoc, List.cons_append, List.append_assoc] at hmore
  rw [siteNav?, ← hmore, elements_append (opening?_nav_headPieces site p page),
    elements_cons_of_opening rfl, List.cons_append,
    upTo_append (tag_ne_closing_nav items page.slug) rfl]
  exact List.find?_cons_of_pos rfl

/-- A page's own item is the only one that is marked when no other page has its slug. -/
theorem filter_current (hnodup : (pages.map Page.slug).Nodup) {q : Page} (hq : q ∈ pages) :
    (pages.map fun q' => itemOf q.slug q'.navEntry).filter ListItem.current =
      [itemOf q.slug q.navEntry] := by
  induction pages with
  | nil => cases hq
  | cons first rest ih =>
    rw [List.map_cons, List.nodup_cons] at hnodup
    rcases List.mem_cons.1 hq with rfl | hq
    · have hself : (itemOf q.slug q.navEntry).current = true := beq_self_eq_true q.slug
      have hrest : (rest.map fun q' => itemOf q.slug q'.navEntry).filter ListItem.current = [] := by
        rw [List.filter_eq_nil_iff]
        intro item hitem hcurrent
        obtain ⟨q', hq', rfl⟩ := List.mem_map.1 hitem
        exact hnodup.1 (List.mem_map.2 ⟨q', hq', beq_iff_eq.1 hcurrent⟩)
      rw [List.map_cons, List.filter_cons_of_pos hself, hrest]
    · have hne : first.slug ≠ q.slug := fun he => hnodup.1 (he ▸ List.mem_map_of_mem hq)
      rw [List.map_cons, List.filter_cons_of_neg, ih hnodup.2 hq]
      exact fun he => hne (beq_iff_eq.1 he)

/-- **The navigation of a page that is rendered** has an item for each page of the site. -/
theorem exists_siteNav {config : SiteConfig} {rendered : Site}
    (hsite : Site.assemble config pages = .ok rendered) {q : Page} {content : Fragment}
    (hcontent : rendered.renderPage q = .ok content) :
    ∃ found, siteNav? content.html = some found ∧
      listItems found.inside = pages.map fun q' => itemOf q.slug q'.navEntry := by
  obtain ⟨toc, -, rfl⟩ := Site.assemble_eq_ok_iff.1 hsite
  obtain ⟨inner, -, rfl⟩ := Site.renderPage_eq_ok_iff.1 hcontent
  have hhtml : (Site.frame config pages q inner).html =
      header config.site (pages.map Page.navEntry) config.project q.navEntry ++
        (inner.html ++ footer config.project) := by
    rw [Site.frame, String.append_assoc]
  rw [hhtml, siteNav?_header_append]
  refine ⟨_, rfl, ?_⟩
  rw [listItems_navPieces _ _ (by decide), List.map_map]
  rfl

/-- **The navigation list can be read back.** From the html of any list a reader gets, item by item
and in order, whether the item is the current one, and one link with the file and the title of the
entry. In a site whose pages have distinct slugs, the navigation of every page that is rendered has
an item for each page, and the only one that is marked links to the file of the page itself. -/
theorem nav_reads_back :
    (∀ items current, listItems (pieces (nav items current)) =
      items.map fun e => {
        current := e.slug == current
        links := [(some (pageFile e.slug), e.title)] }) ∧
    ∀ config pages site, Site.assemble config pages = .ok site → (pages.map Page.slug).Nodup →
      ∀ q ∈ pages, ∀ content, site.renderPage q = .ok content →
        ∃ found, siteNav? content.html = some found ∧
          listItems found.inside = pages.map (fun q' => {
            current := q'.slug == q.slug
            links := [(some (pageFile q'.slug), q'.title)] }) ∧
          (listItems found.inside).filter ListItem.current = [{
            current := true
            links := [(some (pageFile q.slug), q.title)] }] := by
  refine ⟨fun items current => ?_, fun config pages site hsite hnodup q hq content hcontent => ?_⟩
  · rw [pieces_nav, ← List.append_nil (navPieces items current),
      listItems_navPieces items current (List.forall_mem_nil _)]
    rfl
  · obtain ⟨found, hfound, hitems⟩ := exists_siteNav hsite hcontent
    refine ⟨found, hfound, hitems, ?_⟩
    have hself : itemOf q.slug q.navEntry =
        { current := true, links := [(some (pageFile q.slug), q.title)] } :=
      congrArg₂ ListItem.mk (beq_self_eq_true q.slug) rfl
    rw [hitems, filter_current hnodup hq, hself]

/-- Pages whose slugs and titles would be tags, attributes and entities. -/
def oddPages : List Page :=
  [{ slug := "\" class=\"current", title := "</a></li><li class=\"current\">",
     body := fun _ => .ok {} },
    { slug := "&quot;", title := "&lt;", body := fun _ => .ok {} }]

/-- They are read back as they are. -/
theorem nav_reads_back_odd :
    ∃ site content found, Site.assemble {} oddPages = .ok site ∧
      site.renderPage oddPages[1] = .ok content ∧ siteNav? content.html = some found ∧
      (listItems found.inside).filter ListItem.current =
        [{ current := true, links := [(some "&quot;.html", "&lt;")] }] := by
  have hsite : Site.assemble {} oddPages = .ok (Site.ofToc {} oddPages .empty) :=
    Site.assemble_of_toc rfl
  have hcontent := Site.renderPage_eq {} oddPages .empty oddPages[1]
  obtain ⟨found, hfound, -, hcurrent⟩ := nav_reads_back.2 {} oddPages _ hsite (by decide)
    oddPages[1] (by simp [oddPages]) _ hcontent
  exact ⟨_, _, found, hsite, hcontent, hfound, hcurrent⟩

end StaticSite.Shell
