import Mathlib.Data.List.Forall2
import StaticSite.Proofs.Html.Escape
import StaticSite.Shell

/-!
# Configured text in the page shell

Names, titles, the tagline, the language and slugs come from the configuration and from the pages,
and all of them may be any text. They reach the shell by way of escaping alone, so they add no mark
to it: the marks of a header are those of its literal parts.

## What the marks of a header depend on

Two things decide which literal parts a header has: which navigation items are the current page, and
whether there is a tagline. Both are facts about texts (two slugs are equal, a text is empty) and
not about what is in them, and nothing else of the configuration is left. So the statement compares
two headers that agree on these facts and in nothing else.

## Main results

* `Shell.marks_nav_congr`, `Shell.marks_header_congr`, `Shell.marks_footer_congr` — two shells with
  the same parts have the same marks
* `Shell.render_eq_ok_iff` — a page is its header, its body and its footer
* `Shell.configured_text_adds_no_marks` — the three together
-/

namespace StaticSite.Shell

open Html

variable {site site' : SiteMeta} {items items' : List NavEntry} {current current' : String}

/-- The lists mark the current page at the same positions, and are of the same length. -/
def SameCurrent (items : List NavEntry) (current : String) (items' : List NavEntry)
    (current' : String) : Prop :=
  List.Forall₂ (fun e e' => e.slug = current ↔ e'.slug = current') items items'

instance (items : List NavEntry) (current : String) (items' : List NavEntry) (current' : String) :
    Decidable (SameCurrent items current items' current') :=
  inferInstanceAs (Decidable (List.Forall₂ _ _ _))

theorem marks_navItem_congr {e e' : NavEntry} (h : e.slug = current ↔ e'.slug = current') :
    marks (navItem current e) = marks (navItem current' e') := by
  simp only [navItem, marks_join, List.flatMap_cons, marks_escape, h]

/-- **The navigation list.** -/
theorem marks_nav_congr (h : SameCurrent items current items' current') :
    marks (nav items current) = marks (nav items' current') := by
  have hitems : marks (String.join (items.map (navItem current))) =
      marks (String.join (items'.map (navItem current'))) := by
    rw [marks_join, marks_join]
    induction h with
    | nil => rfl
    | cons he _ ih =>
      rw [List.map_cons, List.map_cons, List.flatMap_cons, List.flatMap_cons,
        marks_navItem_congr he, ih]
  simp only [nav, marks_join, List.flatMap_cons] at hitems ⊢
  rw [hitems]

theorem marks_tagline_congr (h : site.tagline = "" ↔ site'.tagline = "") :
    marks (tagline site) = marks (tagline site') := by
  rw [tagline, tagline]
  by_cases hempty : site.tagline = ""
  · rw [if_pos hempty, if_pos (h.1 hempty)]
  · rw [if_neg hempty, if_neg fun hempty' => hempty (h.2 hempty')]
    simp only [marks_join, List.flatMap_cons, marks_escape]

/-- **The header.** -/
theorem marks_header_congr {page page' : NavEntry}
    (hnav : SameCurrent items page.slug items' page'.slug)
    (htagline : site.tagline = "" ↔ site'.tagline = "") (p p' : Project) :
    marks (header site items p page) = marks (header site' items' p' page') := by
  simp only [header, marks_join, List.flatMap_cons, marks_escape, marks_nav_congr hnav,
    marks_tagline_congr htagline]

/-- **The footer.** -/
theorem marks_footer_congr (p p' : Project) : marks (footer p) = marks (footer p') := by
  simp only [footer, marks_join, List.flatMap_cons, marks_escape]

/-- A page that can be rendered is its header, what its body yields, and its footer. -/
theorem render_eq_ok_iff {ctx : ShellContext} {page : NavEntry} {body : Body} {out : Fragment} :
    render ctx page body = .ok out ↔
      ∃ p inner, ctx.holder.get = .ok p ∧ body (links ctx p page) = .ok inner ∧
        out = ⟨header ctx.site ctx.nav p page ++ inner.html ++ footer p, inner.dangling⟩ := by
  rw [render]
  cases ctx.holder.get with
  | error e => simp
  | ok p =>
    cases hbody : body (links ctx p page) with
    | error e => simp [hbody]
    | ok inner => simp [hbody, eq_comm]

/-- **Configured text adds no marks to a page.** Two headers whose navigation lists mark the current
page at the same positions, and which both have a tagline or both have none, have the same marks,
whatever all the texts are; and so have the navigation lists, and any two footers. A page that is
rendered has the marks of its header, of its body and of its footer in this order, with the text of
the body unchanged between the other two. -/
theorem configured_text_adds_no_marks (page page' : NavEntry)
    (hnav : SameCurrent items page.slug items' page'.slug)
    (htagline : site.tagline = "" ↔ site'.tagline = "") (p p' : Project) :
    marks (header site items p page) = marks (header site' items' p' page') ∧
    marks (nav items page.slug) = marks (nav items' page'.slug) ∧
    marks (footer p) = marks (footer p') ∧
    ∀ ctx rendered body out, render ctx rendered body = .ok out →
      ∃ q inner, ctx.holder.get = .ok q ∧ body (links ctx q rendered) = .ok inner ∧
        out.html = header ctx.site ctx.nav q rendered ++ inner.html ++ footer q ∧
        marks out.html = marks (header ctx.site ctx.nav q rendered) ++ marks inner.html ++
          marks (footer q) := by
  refine ⟨marks_header_congr hnav htagline p p', marks_nav_congr hnav, marks_footer_congr p p', ?_⟩
  intro ctx rendered body out hrender
  obtain ⟨q, inner, hproject, hbody, rfl⟩ := render_eq_ok_iff.1 hrender
  refine ⟨q, inner, hproject, hbody, rfl, ?_⟩
  rw [marks_append, marks_append]

/-- Texts that would be markup if they were not escaped. -/
theorem configured_text_adds_no_marks_script :
    marks (header { title := "</title><script>", tagline := "\">", lang := "\" onload=\"" }
        [⟨"<b>", "</a>"⟩, ⟨"faq", "\"<"⟩] { name := "<i>\"" } ⟨"<b>", "<!--"⟩) =
      marks (header {} [⟨"index", "Home"⟩, ⟨"faq", "FAQ"⟩] {} ⟨"index", "Home"⟩) := by
  have hnav : SameCurrent [⟨"<b>", "</a>"⟩, ⟨"faq", "\"<"⟩] "<b>"
      [⟨"index", "Home"⟩, ⟨"faq", "FAQ"⟩] "index" := by decide
  exact (configured_text_adds_no_marks ⟨"<b>", "<!--"⟩ ⟨"index", "Home"⟩ hnav (by decide) _ _).1

end StaticSite.Shell
