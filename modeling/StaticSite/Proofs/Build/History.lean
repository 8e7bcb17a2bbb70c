import StaticSite.Proofs.Build.Run

/-!
# The history of an output directory

An output directory lives through builds, and between them files are deleted. This module says what
the manifest knows after any such history, and how what it knows relates to what is on disk.

## What the manifest knows

`recorded` reads it off the history: the content that a file was last built with, as far back as the
last build without the cache. Only builds that succeed count. That the manifest has the digests of
exactly these contents, `History.noted_eq`, holds whatever happened in between.

## What the manifest does not know

A build that is stopped by a file may have written other pages before, and it leaves the manifest
from before. So what is on disk need not be what is recorded. Where no build was stopped it is, or
the file is gone: `History.find?_of_recorded`.

## Main results

* `History.noted_eq` — the manifest has the digests of the recorded contents
* `History.opens` — a directory that something is recorded of is open
* `History.find?_built` — what a successful build leaves in the place of a page
* `History.find?_of_recorded` — without stopped builds, what is recorded is on disk or gone
-/

namespace StaticSite

namespace Build

/-- What can happen to an output directory. -/
inductive Act
  /-- A build that succeeds. -/
  | built (r : Run)
  /-- A build that fails before it looks at the tree. -/
  | refused (r : Run)
  /-- A build that is stopped by the file of a page or by the manifest. -/
  | stopped (r : Run)
  /-- Somebody deletes the file of a page. -/
  | deleted (slug : String)

/-- An act leads from one tree to another. -/
inductive Act.Leads (digest : String → String) (dir : Path) : Act → FileTree → FileTree → Prop
  | built {r : Run} {t : FileTree} {report : SiteReport} (flat : r.Flat)
      (ok : (r.outcome digest dir t).result = .ok report) :
      Leads digest dir (.built r) t (r.outcome digest dir t).tree
  | refused {r : Run} {t : FileTree} {e : SiteError}
      (error : (r.outcome digest dir t).result = .error e) (rendering : ∀ cause, e ≠ .file cause) :
      Leads digest dir (.refused r) t (r.outcome digest dir t).tree
  | stopped {r : Run} {t : FileTree} {e : FileError} (made : (t.makeDirectories dir).2 = .ok ())
      (error : (r.outcome digest dir t).result = .error (.file e)) :
      Leads digest dir (.stopped r) t (r.outcome digest dir t).tree
  | deleted {slug : String} {t : FileTree} (flat : FlatSlug slug)
      (file : t.find? (dir.join (pageFile slug)) ≠ some .directory) :
      Leads digest dir (.deleted slug) t (t.delete (dir.join (pageFile slug)))

/-- The acts, the latest first, lead from a tree to another. -/
inductive History (digest : String → String) (dir : Path) (t₀ : FileTree) :
    List Act → FileTree → Prop
  | start : History digest dir t₀ [] t₀
  | next {acts : List Act} {act : Act} {t t' : FileTree} (h : History digest dir t₀ acts t)
      (leads : act.Leads digest dir t t') : History digest dir t₀ (act :: acts) t'

theorem History.append {digest : String → String} {dir : Path} {t₀ t₁ t₂ : FileTree}
    {acts later : List Act} (h : History digest dir t₀ acts t₁)
    (h' : History digest dir t₁ later t₂) : History digest dir t₀ (later ++ acts) t₂ := by
  induction h' with
  | start => exact h
  | next _ leads ih => exact .next ih leads

/-- The directory is absent or has no manifest. This is asked of the tree in which the directory has
been made, because a path such as `x/..` leads nowhere as long as there is no `x`. -/
def NoManifest (t : FileTree) (dir : Path) : Prop :=
  (withDirectory t dir).holds (dir.join manifestFile) = false

instance (t : FileTree) (dir : Path) : Decidable (NoManifest t dir) :=
  inferInstanceAs (Decidable (_ = false))

/-- The contents that successful builds of a history had. -/
def contentsOf (acts : List Act) : List String :=
  acts.flatMap fun
    | .built r => r.contents
    | _ => []

/-- The content that a file was last built with. A build without the cache forgets all files but its
own. -/
def recorded : List Act → String → Option String
  | [], _ => none
  | .built r :: acts, slug =>
    (r.html? slug).or (if r.useCache then recorded acts slug else none)
  | .refused _ :: acts, slug => recorded acts slug
  | .stopped _ :: acts, slug => recorded acts slug
  | .deleted _ :: acts, slug => recorded acts slug

/-- The content that a run takes a file to have. -/
def Run.known (r : Run) (acts : List Act) (slug : String) : Option String :=
  if r.useCache then recorded acts slug else none

/-- No build of the history was stopped. -/
def Unstopped (acts : List Act) : Prop := ∀ r, Act.stopped r ∉ acts

variable {digest : String → String} {dir : Path} {d : Location} {t₀ t t' : FileTree}
  {acts : List Act} {r : Run} {p : Progress} {slug html g : String}

theorem recorded_built (r : Run) (acts : List Act) (slug : String) :
    recorded (.built r :: acts) slug = (r.html? slug).or (r.known acts slug) := rfl

theorem known_eq_some_iff :
    r.known acts slug = some g ↔ r.useCache = true ∧ recorded acts slug = some g := by
  rw [Run.known]
  split
  next hcache => simp [hcache]
  next hcache => simp [hcache]

theorem recorded_of_known (h : r.known acts slug = some g) : recorded acts slug = some g :=
  (known_eq_some_iff.1 h).2

theorem contentsOf_cons_subset (act : Act) (acts : List Act) :
    ∀ a ∈ contentsOf acts, a ∈ contentsOf (act :: acts) := by
  intro a ha
  rw [contentsOf, List.flatMap_cons]
  exact List.mem_append_right _ ha

theorem contentsOf_built (r : Run) (acts : List Act) :
    contentsOf (.built r :: acts) = r.contents ++ contentsOf acts := rfl

theorem mem_contentsOf_of_recorded (h : recorded acts slug = some g) : g ∈ contentsOf acts := by
  induction acts with
  | nil => cases h
  | cons act acts ih =>
    cases act with
    | built r =>
      rw [recorded_built, Option.or_eq_some_iff] at h
      rw [contentsOf_built, List.mem_append]
      rcases h with h | ⟨-, h⟩
      · exact .inl (Run.mem_contents_of_mem_htmls (Run.mem_htmls_of_html? h))
      · exact .inr (ih (recorded_of_known h))
    | refused r => exact ih h
    | stopped r => exact ih h
    | deleted slug => exact ih h

theorem withDirectory_of_opens (h : t.Opens dir d) : withDirectory t dir = t := by
  rw [withDirectory, h.makeDirectories]

theorem Unstopped.tail {act : Act} (h : Unstopped (act :: acts)) : Unstopped acts :=
  fun r hr => h r (List.mem_cons_of_mem _ hr)

/-! ### Deletions -/

/-- Deleting the file of a page leaves the manifest. -/
theorem load_delete (hslug : FlatSlug slug)
    (hfile : t.find? (dir.join (pageFile slug)) ≠ some .directory) :
    Manifest.load (withDirectory (t.delete (dir.join (pageFile slug))) dir) dir =
      Manifest.load (withDirectory t dir) dir := by
  by_cases ho : ∃ d, t.Opens dir d
  · obtain ⟨d, ho⟩ := ho
    rw [withDirectory_of_opens ho,
      withDirectory_of_opens (ho.delete_join hslug.isFileName hfile)]
    refine Manifest.load_congr ?_
    rw [ho.find?_delete_join isFileName_manifestFile hslug.isFileName hfile,
      if_neg (Ne.symm (pageFile_ne_manifestFile slug))]
  · rw [FileTree.delete_of_not_opens hslug.isFileName fun d hd => ho ⟨d, hd⟩]

/-! ### What the manifest knows -/

namespace History

/-- A directory that something is recorded of is open. -/
theorem opens (h : History digest dir t₀ acts t) (hrec : recorded acts slug = some g) :
    ∃ d, t.Opens dir d := by
  induction h with
  | start => cases hrec
  | next _ leads ih =>
    cases leads with
    | built flat ok =>
      obtain ⟨toc, d, p, hc, -⟩ := Run.exists_completes ok
      exact ⟨d, hc.opens_after⟩
    | refused error rendering =>
      rw [Run.tree_of_refused error rendering]
      exact ih hrec
    | stopped made error => exact Run.opens_of_stopped made error
    | deleted flat file =>
      obtain ⟨d, ho⟩ := ih hrec
      exact ⟨d, ho.delete_join flat.isFileName file⟩

/-- **The manifest has the digests of the recorded contents**, and of no others. -/
theorem noted_eq (h : History digest dir t₀ acts t) (h₀ : NoManifest t₀ dir)
    (hslug : FlatSlug slug) :
    (fileState (withDirectory t dir) dir slug).noted = (recorded acts slug).map digest := by
  induction h with
  | start =>
    rw [fileState, Manifest.load_of_find?_none]
    · rfl
    · rw [NoManifest, FileTree.holds, Option.isSome_eq_false_iff, Option.isNone_iff_eq_none] at h₀
      exact h₀
  | @next acts _ t _ _ leads ih =>
    cases leads with
    | @built r _ _ flat ok =>
      obtain ⟨toc, d, p, hc, -⟩ := Run.exists_completes ok
      rw [withDirectory_of_opens hc.opens_after, hc.fileState_eq flat hslug,
        FileState.noted_foldl_settle, Run.fileState_start, ih, recorded_built, Option.map_or,
        Run.html?, Run.known]
      cases r.useCache <;> rfl
    | refused error rendering =>
      rw [Run.tree_of_refused error rendering]
      exact ih
    | stopped made error =>
      obtain ⟨d, ho⟩ := Run.opens_of_stopped made error
      rw [fileState, withDirectory_of_opens ho, Run.load_of_stopped made error]
      exact ih
    | deleted flat file =>
      rw [fileState, load_delete flat file]
      exact ih

/-! ### What is on disk -/

/-- What a run sees of a file: the content it takes the file to have, by its digest. -/
theorem noted_start (h : History digest dir t₀ acts t) (h₀ : NoManifest t₀ dir)
    (hslug : FlatSlug slug) (r : Run) :
    ((r.start dir (withDirectory t dir)).fileState dir slug).noted =
      (r.known acts slug).map digest := by
  rw [Run.fileState_start, h.noted_eq h₀ hslug, Run.known]
  cases r.useCache <;> rfl

/-- The directory of a file that a run takes to have a content is there already. -/
theorem withDirectory_of_known (h : History digest dir t₀ acts t)
    (hknown : r.known acts slug = some g) : withDirectory t dir = t := by
  obtain ⟨d, ho⟩ := h.opens (recorded_of_known hknown)
  exact withDirectory_of_opens ho

/-- **What a successful build leaves in the place of a page.** The file is left alone only when the
build takes it to have the content that every page of the slug has, and there is something. -/
theorem find?_built (h : History digest dir t₀ acts t) (h₀ : NoManifest t₀ dir)
    (hdigest : NoCollision digest (contentsOf (.built r :: acts)))
    (hc : r.Completes digest dir t d p) (hflat : r.Flat) (hslug : FlatSlug slug)
    (hhtml : r.html? slug = some html) :
    (r.outcome digest dir t).tree.find? (dir.join (pageFile slug)) =
      if r.known acts slug = some html ∧ t.holds (dir.join (pageFile slug)) = true ∧
        ∀ x ∈ r.htmls slug, x = html
      then t.find? (dir.join (pageFile slug)) else some (.file html.toUTF8) := by
  have hknown : ∀ g, r.known acts slug = some g → g ∈ contentsOf (.built r :: acts) :=
    fun g hg => List.mem_append_right _ (mem_contentsOf_of_recorded (recorded_of_known hg))
  have hhtmls : ∀ x ∈ r.htmls slug, x ∈ contentsOf (.built r :: acts) :=
    fun x hx => List.mem_append_left _ (Run.mem_contents_of_mem_htmls hx)
  have hheld := congrArg FileState.held (hc.fileState_eq hflat hslug)
  rw [FileState.held_foldl_settle hdigest hknown hhtmls (h.noted_start h₀ hslug r) hhtml,
    Run.fileState_start] at hheld
  by_cases hk : r.known acts slug = some html
  · rw [h.withDirectory_of_known hk] at hheld
    exact hheld
  · rw [if_neg fun hall => hk hall.1] at hheld ⊢
    exact hheld

/-- A successful build leaves a file alone that it has no page for. -/
theorem find?_built_of_html?_none (hc : r.Completes digest dir t d p) (hflat : r.Flat)
    (hslug : FlatSlug slug) (hhtml : r.html? slug = none) :
    (r.outcome digest dir t).tree.find? (dir.join (pageFile slug)) =
      (withDirectory t dir).find? (dir.join (pageFile slug)) := by
  have hheld := congrArg FileState.held (hc.fileState_eq hflat hslug)
  rw [Run.html?_eq_none_iff.1 hhtml, Run.fileState_start] at hheld
  exact hheld

/-- What a deletion leaves in the place of a page. -/
theorem find?_delete (ho : t.Opens dir d) {deleted : String} (hdeleted : FlatSlug deleted)
    (hfile : t.find? (dir.join (pageFile deleted)) ≠ some .directory) (hslug : FlatSlug slug) :
    (t.delete (dir.join (pageFile deleted))).find? (dir.join (pageFile slug)) =
      if slug = deleted then none else t.find? (dir.join (pageFile slug)) := by
  rw [ho.find?_delete_join hslug.isFileName hdeleted.isFileName hfile]
  by_cases hs : slug = deleted
  · rw [if_pos hs, if_pos (by rw [hs])]
  · rw [if_neg hs, if_neg fun he => hs (pageFile_injective he)]

/-- **Without stopped builds, what is recorded is on disk**, unless it was deleted. -/
theorem find?_of_recorded (h : History digest dir t₀ acts t) (h₀ : NoManifest t₀ dir)
    (hdigest : NoCollision digest (contentsOf acts)) (hunstopped : Unstopped acts)
    (hslug : FlatSlug slug) (hrec : recorded acts slug = some html) :
    t.find? (dir.join (pageFile slug)) = none ∨
      t.find? (dir.join (pageFile slug)) = some (.file html.toUTF8) := by
  induction h generalizing html with
  | start => cases hrec
  | @next acts _ t _ h leads ih =>
    cases leads with
    | @built r _ _ flat ok =>
      obtain ⟨toc, d, p, hc, -⟩ := Run.exists_completes ok
      have hrest : NoCollision digest (contentsOf acts) :=
        hdigest.mono fun a ha => List.mem_append_right _ ha
      rw [recorded_built, Option.or_eq_some_iff] at hrec
      rcases hrec with hhtml | ⟨hhtml, hknown⟩
      · rw [h.find?_built h₀ hdigest hc flat hslug hhtml]
        split
        next hkept => exact ih hrest hunstopped.tail (recorded_of_known hkept.1)
        next => exact .inr rfl
      · rw [find?_built_of_html?_none hc flat hslug hhtml, h.withDirectory_of_known hknown]
        exact ih hrest hunstopped.tail (recorded_of_known hknown)
    | refused error rendering =>
      rw [Run.tree_of_refused error rendering]
      exact ih hdigest hunstopped.tail hrec
    | stopped made error => exact absurd List.mem_cons_self (hunstopped _)
    | deleted flat file =>
      obtain ⟨d, ho⟩ := h.opens hrec
      rw [find?_delete ho flat file hslug]
      split
      · exact .inl rfl
      · exact ih hdigest hunstopped.tail hrec

end History

end Build

end StaticSite
