import StaticSite.Proofs.Html.Ids
import StaticSite.Proofs.Links
import StaticSite.Proofs.Navigation
import StaticSite.Proofs.Page.Stock

/-!
# The sections of the built-in pages

A page says which sections it holds, and its body has an element with the id of each. The two are
written in different places, and between the elements of the body stand names, versions and
addresses that may be any texts at all.

## What can give an id

In a script, only finished markup can. Whatever is interpolated is escaped, links are opening tags
with an address, and the prose of the built-in pages has no ids. So the ids of a body are those of
the markup in the script, and they can be read off the script without rendering it.

## Deciding it on letters

Markup and prose are literals, and what is asked of them can be computed. For prose this means
reading the Markdown. The computation is done on lists of letters, see `Text.Spelled`.

## Main results

* `Script.declares_render` — what a script declares, it declares wherever it is rendered
* `Stock.declares_body` — the built-in pages declare their sections
* `Stock.sections_exist_once` — each section exists once, in a body and in the whole page
-/

namespace StaticSite

open Html (Declares Quiet idsOf)
open Text (Spelled)

/-! ### The ids of a script -/

/-- A link is an opening tag, or a tag around a text. -/
theorem Anchor.labelled_eq (a : Anchor) (label? : Option String) :
    a.labelled label? = a.openTag ∨ ∃ text, a.labelled label? = a.wrap text := by
  cases label? with
  | some label => exact .inr ⟨label, rfl⟩
  | none =>
    obtain ⟨href, text?⟩ := a
    cases text? with
    | some text => exact .inr ⟨text, rfl⟩
    | none => exact .inl rfl

namespace ScriptItem

variable {known : List String} {l : Links} {item : ScriptItem} {f : Fragment}

/-- The finished markup of the item. -/
def raw? : ScriptItem → Option String
  | raw html => some html
  | _ => none

/-- The prose of the item. -/
def prose? : ScriptItem → Option String
  | prose source => some source
  | _ => none

/-- The ids in the markup of the item. -/
def ids : ScriptItem → List String
  | raw html => Html.ids html
  | _ => []

/-- The markup of the item declares its ids, and its prose has none. -/
def Sound (known : List String) : ScriptItem → Prop
  | raw html => Declares known html.toList (Html.ids html)
  | prose source => Quiet (Markdown.toHtml source).toList
  | _ => True

theorem declares_labelled (hknown : ∀ id ∈ known, id.toList.all Html.isInner = true)
    (a : Anchor) (label? : Option String) : Declares known (a.labelled label?).toList [] := by
  obtain hlabelled | ⟨text, hlabelled⟩ := a.labelled_eq label?
  · rw [hlabelled]
    exact Html.declares_openTag known a
  · rw [hlabelled]
    exact Html.declares_wrap known hknown a text

/-- **What an item declares** are the ids in its markup, whatever the configuration is. -/
theorem declares_render (hknown : ∀ id ∈ known, id.toList.all Html.isInner = true)
    (hitem : item.Sound known) (h : item.render l = .ok f) :
    Declares known f.html.toList item.ids := by
  cases item with
  | raw html =>
    obtain rfl := Except.ok.inj h
    exact hitem
  | prose source =>
    have hquiet : Quiet (Markdown.toHtml source).toList := hitem
    obtain rfl := Except.ok.inj h
    exact hquiet.declares known
  | text s =>
    obtain rfl := Except.ok.inj h
    exact Html.declares_escape known s
  | projectName =>
    obtain rfl := Except.ok.inj h
    exact Html.declares_escape known _
  | projectVersion =>
    obtain rfl := Except.ok.inj h
    exact Html.declares_escape known _
  | summary =>
    obtain rfl := Except.ok.inj h
    exact Html.declares_escape known _
  | archiveServer label =>
    obtain rfl := Except.ok.inj h
    exact Html.declares_wrap known hknown _ label
  | external path label? =>
    rw [render] at h
    cases hlink : l.external path <;> rw [hlink] at h <;> cases h
    exact declares_labelled hknown _ label?
  | internal id label? =>
    rw [render] at h
    cases hlink : l.internal id <;> rw [hlink] at h <;> cases h
    exact declares_labelled hknown _ label?
  | archive suffix label? =>
    rw [render] at h
    cases hlink : l.archive suffix <;> rw [hlink] at h <;> cases h
    exact declares_labelled hknown _ label?

end ScriptItem

namespace Script

variable {known declared : List String} {l : Links} {s : Script} {f : Fragment}
  {letters : List (List Char)}

/-- **What a script declares** are the ids in its markup, in order. -/
theorem declares_render (hknown : ∀ id ∈ known, id.toList.all Html.isInner = true)
    (hs : ∀ item ∈ s, item.Sound known) (h : Script.render l s = .ok f) :
    Declares known f.html.toList (s.flatMap ScriptItem.ids) := by
  induction s generalizing f with
  | nil =>
    cases h
    exact Quiet.declares (by decide) known
  | cons item rest ih =>
    obtain ⟨hitem, hrest⟩ := List.forall_mem_cons.1 hs
    obtain ⟨first, others, hfirst, hothers, rfl⟩ := render_cons_eq_ok_iff.1 h
    have hhtml : (first ++ others).html.toList = first.html.toList ++ others.html.toList :=
      String.toList_append
    rw [hhtml, List.flatMap_cons]
    exact (ScriptItem.declares_render hknown hitem hfirst).append hknown (ih hrest hothers)

theorem flatMap_ids (s : Script) :
    s.flatMap ScriptItem.ids = (s.filterMap ScriptItem.raw?).flatMap Html.ids := by
  induction s with
  | nil => rfl
  | cons item rest ih =>
    rw [List.flatMap_cons, ih]
    cases item <;> rfl

theorem flatMap_ids_of_spelled (h : Spelled (s.filterMap ScriptItem.raw?) letters) :
    s.flatMap ScriptItem.ids = letters.flatMap idsOf := by
  have hids : Html.ids = fun html => idsOf html.toList := funext Html.ids_eq
  rw [flatMap_ids, ← h.map_toList, List.flatMap_map, hids]

/-- A script is sound when its markup, letter by letter, and its prose are. -/
theorem sound_of_spelled (h : Spelled (s.filterMap ScriptItem.raw?) letters)
    (hletters : ∀ cs ∈ letters, Declares known cs (idsOf cs))
    (hprose : ∀ source ∈ s.filterMap ScriptItem.prose?, Quiet (Markdown.toHtml source).toList) :
    ∀ item ∈ s, item.Sound known := by
  intro item hitem
  cases item with
  | raw html =>
    have hhtml : html ∈ s.filterMap ScriptItem.raw? := List.mem_filterMap.2 ⟨_, hitem, rfl⟩
    have hmem := hletters html.toList (h.map_toList ▸ List.mem_map_of_mem hhtml)
    rwa [← Html.ids_eq] at hmem
  | prose source => exact hprose source (List.mem_filterMap.2 ⟨_, hitem, rfl⟩)
  | _ => trivial

/-- **The script of a page declares its sections**, if its markup does and its prose is quiet. -/
theorem declares_of_spelled (hknown : ∀ id ∈ known, id.toList.all Html.isInner = true)
    (hspelled : Spelled (s.filterMap ScriptItem.raw?) letters)
    (hletters : ∀ cs ∈ letters, Declares known cs (idsOf cs))
    (hdeclared : letters.flatMap idsOf = declared)
    (hprose : ∀ source ∈ s.filterMap ScriptItem.prose?, Quiet (Markdown.toHtml source).toList)
    (h : Script.render l s = .ok f) : Declares known f.html.toList declared := by
  rw [← hdeclared, ← flatMap_ids_of_spelled hspelled]
  exact declares_render hknown (sound_of_spelled hspelled hletters hprose) h

end Script

/-! ### Markdown, letter by letter -/

namespace Markdown

/-- The html of a Markdown text of so many bytes, from its letters. -/
def htmlChars (size : Nat) (source : List Char) : List Char :=
  let document := Document.ofText source
  renderBlocks false true
    (blocksWithContent document.definitions (targetAllowance size) document.blocks).1

theorem toList_toHtml (source : String) :
    (toHtml source).toList = htmlChars source.utf8ByteSize source.toList := by
  rw [toHtml, String.toList_ofList]
  rfl

/-- Lines are quiet when they are, letter by letter. -/
theorem quiet_toHtml_unlines {lines : List String} {letters : List (List Char)}
    (h : Spelled lines letters)
    (hquiet : Quiet (htmlChars (Text.unlines lines).utf8ByteSize
      (letters.flatMap (· ++ ['\n'])))) : Quiet (toHtml (Text.unlines lines)).toList := by
  rwa [toList_toHtml, Text.toList_unlines, h.map_toList]

end Markdown

/-! ### The built-in pages -/

namespace Stock

open Markdown (toHtml quiet_toHtml_unlines)

variable {l : Links} {f : Fragment}

/-- The scripts of the built-in pages. -/
def scripts : List Script := [homeScript, downloadScript, questionsScript]

/-- **The prose of the pages is quiet.** The letters are found first, and then the Markdown is read
on them. -/
theorem quiet_prose : ∀ s ∈ scripts, ∀ source ∈ s.filterMap ScriptItem.prose?,
    Quiet (toHtml source).toList := by
  have hhome : homeScript.filterMap ScriptItem.prose? =
      [optimizerProse, knownBugsProse, limitationsProse] := rfl
  have hdownload : downloadScript.filterMap ScriptItem.prose? = [buildFromSourceProse] := rfl
  have hquestions : questionsScript.filterMap ScriptItem.prose? =
      [decompilerProse, obfuscatorProse] := rfl
  simp only [scripts, List.forall_mem_cons, hhome, hdownload, hquestions]
  refine ⟨⟨?_, ?_, ?_, nofun⟩, ⟨?_, nofun⟩, ⟨?_, ?_, nofun⟩, nofun⟩
  -- In one proof the texts are read one after another, and not all at the same time.
  all_goals exact quiet_toHtml_unlines (by repeat constructor) (by decide +kernel)

/-- **The body of a page declares the sections of the page.** -/
theorem declares_body {p : Page} (hp : p ∈ pages) (h : p.body l = .ok f) :
    Declares p.sections f.html.toList p.sections := by
  simp only [pages, List.mem_cons, List.not_mem_nil, or_false] at hp
  rcases hp with rfl | rfl | rfl
  · have hprose := quiet_prose homeScript (by simp [scripts])
    exact Script.declares_of_spelled (by decide) (by repeat constructor) (by decide +kernel)
      (by decide +kernel) hprose h
  · have hprose := quiet_prose downloadScript (by simp [scripts])
    exact Script.declares_of_spelled (by decide) (by repeat constructor) (by decide +kernel)
      (by decide +kernel) hprose h
  · have hprose := quiet_prose questionsScript (by simp [scripts])
    exact Script.declares_of_spelled (by decide) (by repeat constructor) (by decide +kernel)
      (by decide +kernel) hprose h

end Stock

/-! ### The page around a body -/

namespace Shell

open Html (Piece Whole escape)

/-- The pieces of a footer. -/
def footerPieces (p : Project) : List Piece :=
  [{ tag := .closing "main" },
    { tag := .opening "footer" [("class", "site-footer")] },
    { tag := .opening "p" [] },
    { front := String.join [escape p.name, " ", escape p.version, " · hosted at "],
      tag := .opening "a" [("href", escape p.hostBase)] },
    { front := escape p.hostBase, tag := .closing "a" },
    { tag := .closing "p" },
    { tag := .closing "footer" },
    { tag := .closing "body" },
    { tag := .closing "html" }]

theorem toList_footer (p : Project) :
    (footer p).toList = (footerPieces p).flatMap Piece.chars := by
  simp [footer, footerPieces, Piece.chars, Html.Tag.chars, Html.attributeChars]

theorem proper_footerPieces (p : Project) : ∀ q ∈ footerPieces p, q.Proper := by
  simp [footerPieces, Piece.Proper, Html.Tag.Proper, Html.IsName]

/-- A footer gives no id. -/
theorem idsOf_footer (p : Project) : idsOf (footer p).toList = [] := by
  have hid : ∀ q ∈ footerPieces p, q.tag.id? = none := by
    simp [footerPieces, Html.Tag.id?]
  exact (Html.idsOf_of_pieces (toList_footer p) (proper_footerPieces p) hid).2

theorem id?_navPieces (items : List NavEntry) (current : String) :
    ∀ q ∈ navPieces items current, q.tag.id? = none := by
  refine forall_mem_navPieces (P := fun q => q.tag.id? = none) rfl rfl (fun e => ?_) items
  by_cases h : e.slug = current <;> simp [itemPieces, Html.Tag.id?, h]

/-- A header gives no id, and it ends between tags. -/
theorem idsOf_header (site : SiteMeta) (items : List NavEntry) (p : Project) (page : NavEntry) :
    Whole (header site items p page).toList ∧
      idsOf (header site items p page).toList = [] := by
  refine Html.idsOf_of_pieces (toList_header site items p page)
    (proper_headerPieces site items p page) ?_
  have htagline : ∀ q ∈ taglinePieces site, q.tag.id? = none := by
    by_cases h : site.tagline = "" <;> simp [taglinePieces, Html.Tag.id?, h]
  refine List.forall_mem_append.2 ⟨?_, List.forall_mem_cons.2 ⟨rfl, List.forall_mem_append.2
    ⟨id?_navPieces items page.slug, ?_⟩⟩⟩
  · refine List.forall_mem_append.2 ⟨List.forall_mem_append.2 ⟨?_, htagline⟩, ?_⟩
    · simp [Html.Tag.id?]
    · simp [Html.Tag.id?]
  · simp [Html.Tag.id?]

/-- **The ids of a page** are those of its body. -/
theorem ids_frame {known declared : List String} {config : SiteConfig} {pages : List Page}
    {p : Page} {inner : Fragment} (h : Declares known inner.html.toList declared) :
    Html.ids (Site.frame config pages p inner).html = declared := by
  obtain ⟨hheader, hids⟩ :=
    idsOf_header config.site (pages.map Page.navEntry) config.project p.navEntry
  rw [Html.ids_eq, Site.frame, String.toList_append, String.toList_append, List.append_assoc,
    hheader.idsOf_append, h.whole.idsOf_append, hids, h.ids, idsOf_footer, List.nil_append,
    List.append_nil]

end Shell

/-! ### Each section exists once -/

namespace Stock

open Text (occurrences)
open Html (idAttribute)

variable {l : Links} {f : Fragment} {p : Page} {id : String}

/-- No page holds a section twice. -/
theorem count_sections (hp : p ∈ pages) (hid : id ∈ p.sections) : p.sections.count id = 1 := by
  have hnodup : ∀ p ∈ pages, p.sections.Nodup := by decide
  exact List.count_eq_one_of_mem (hnodup p hp) hid

/-- The link to a section of a page names the section, wherever the link stands. -/
theorem exists_internal (hpage : l.toc.pageOf id = some p.slug) (hp : p ∈ pages) :
    ∃ a, l.internal id = .ok a ∧ a.fragmentPart = id := by
  have hslug : ∀ p ∈ pages, '#' ∉ p.slug.toList := by decide
  exact ⟨_, Links.internal_of_pageOf hpage, Links.fragmentPart_anchorOn (hslug p hp)⟩

/-- **Each declared section exists once.** Whatever the project, the policy, the table of contents
and the current page are, the elements in the body of a built-in page have the sections of the page
as their ids, and the attribute that gives such an id is written at one place in the body. In any
site that has the page, the page as a whole has no other ids, and every link to one of its sections,
from whatever page, names one element of it. -/
theorem sections_exist_once :
    (∀ p ∈ pages, ∀ l f, p.body l = .ok f →
      Html.ids f.html = p.sections ∧
        ∀ id ∈ p.sections, occurrences (idAttribute id).toList f.html.toList = 1) ∧
    ∀ config ps site, Site.assemble config ps = .ok site → ∀ p ∈ pages, p ∈ ps →
      ∀ content, site.renderPage p = .ok content →
        Html.ids content.html = p.sections ∧
          ∀ id ∈ p.sections, ∀ current, ∃ a,
            (config.pageLinks site.toc current).internal id = .ok a ∧
              (Html.ids content.html).count a.fragmentPart = 1 := by
  refine ⟨fun p hp l f hbody => ?_, fun config ps site hsite p hp hmem content hcontent => ?_⟩
  · have hdeclares := declares_body hp hbody
    refine ⟨(Html.ids_eq _).trans hdeclares.ids, fun id hid => ?_⟩
    rw [hdeclares.count id hid, count_sections hp hid]
  · have hpageOf : ∀ id ∈ p.sections, site.toc.pageOf id = some p.slug :=
      fun id hid => Site.pageOf_of_mem hsite hmem hid
    obtain ⟨toc, -, rfl⟩ := Site.assemble_eq_ok_iff.1 hsite
    obtain ⟨inner, hbody, rfl⟩ := Site.renderPage_eq_ok_iff.1 hcontent
    have hids : Html.ids (Site.frame config ps p inner).html = p.sections :=
      Shell.ids_frame (declares_body hp hbody)
    refine ⟨hids, fun id hid current => ?_⟩
    obtain ⟨a, ha, hfragment⟩ :=
      exists_internal (l := config.pageLinks toc current) (hpageOf id hid) hp
    refine ⟨a, ha, ?_⟩
    rw [hids, hfragment, count_sections hp hid]

/-- A project whose name and version would be elements and attributes. -/
def oddNames : SiteConfig where
  project := { name := "<h2 id=\"cvs\">", version := "id=\"news\"" }
  links := { unknownSections := .warn }

theorem sections_exist_once_oddNames :
    ∃ site inner content a, Site.assemble oddNames pages = .ok site ∧
      home.body (oddNames.pageLinks site.toc home) = .ok inner ∧
      Html.ids inner.html = ["news", "known-bugs", "limitations"] ∧
      occurrences (idAttribute "news").toList inner.html.toList = 1 ∧
      site.renderPage home = .ok content ∧
      (oddNames.pageLinks site.toc download).internal "news" = .ok a ∧
      (Html.ids content.html).count a.fragmentPart = 1 := by
  have hfresh : Fresh oddNames.sections := ⟨by decide, by decide⟩
  obtain ⟨toc, htoc⟩ := exists_toc hfresh
  have hsite := Site.assemble_of_toc htoc
  have hhome : home ∈ pages := List.mem_cons_self
  obtain ⟨inner, hinner⟩ := (renders_all_iff htoc).2 (.inl rfl) home hhome
  obtain ⟨content, hcontent⟩ := (Site.exists_renderPage_iff home).2 ⟨inner, hinner⟩
  obtain ⟨hbody, hpage⟩ := sections_exist_once
  obtain ⟨hids, honce⟩ := hbody home hhome _ inner hinner
  obtain ⟨a, ha, hcount⟩ :=
    (hpage oddNames pages _ hsite home hhome hhome content hcontent).2 "news" (by decide) download
  exact ⟨_, inner, content, a, hsite, hinner, hids, honce "news" (by decide), hcontent, ha, hcount⟩

end Stock

end StaticSite
