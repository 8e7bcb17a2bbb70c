import StaticSite.Proofs.Build.Cache

/-!
# Builds after a stopped one

A stopped build may have replaced a file by another content while the manifest still has the digest
from before. A build that comes back to the content from before then finds the digest it looks for,
and leaves the other content there.

## The distinction that decides it

A file is `Stale` when something else than the recorded content is in its place. Nothing but a
stopped build makes a file stale. A file that is stale stays so through every act that `Spares` it:
builds with the cache that have the recorded content or none for it, and deletions of other files.
Every other act ends it. So whether a build recovers can be read off the history.

## Main results

* `Build.stale_leads_iff`, `Build.stale_iff` — how a stale file survives one act, and many
* `Build.recovers_iff` — when a build recovers from a stopped one, exactly
* `Build.not_every_build_recovers` — a history in which one does not
-/

namespace StaticSite

namespace Build

variable {digest : String → String} {dir : Path} {d : Location} {t₀ t t' : FileTree}
  {acts : List Act} {r : Run} {p : Progress} {slug html : String} {report : SiteReport}

/-! ### Stale files -/

/-- Something is in the place of the file, but not the content that is recorded of it. -/
def Stale (acts : List Act) (t : FileTree) (dir : Path) (slug html : String) : Prop :=
  recorded acts slug = some html ∧
    ∃ e, t.find? (dir.join (pageFile slug)) = some e ∧ e ≠ .file html.toUTF8

/-- The act leaves a file alone of which the content is recorded. Stopped builds are not asked. -/
def Act.Spares (slug html : String) : Act → Prop
  | .built r => r.useCache = true ∧ ∀ x ∈ r.htmls slug, x = html
  | .deleted gone => slug ≠ gone
  | .refused _ => True
  | .stopped _ => True

/-- A successful build leaves a stale file where it spares one, and nowhere else. -/
theorem stale_built_iff (h : History digest dir t₀ acts t) (h₀ : NoManifest t₀ dir)
    (hdigest : NoCollision digest (contentsOf (.built r :: acts))) (hflat : r.Flat)
    (hc : r.Completes digest dir t d p) (hslug : FlatSlug slug) :
    Stale (.built r :: acts) (r.outcome digest dir t).tree dir slug html ↔
      Stale acts t dir slug html ∧ (Act.built r).Spares slug html := by
  cases hlast : r.html? slug with
  | none =>
    have hnil := Run.html?_eq_none_iff.1 hlast
    rw [Stale, recorded_built, hlast, Option.none_or,
      History.find?_built_of_html?_none hc hflat hslug hlast]
    constructor
    · rintro ⟨hknown, hheld⟩
      obtain ⟨hcache, hrec⟩ := known_eq_some_iff.1 hknown
      rw [h.withDirectory_of_known hknown] at hheld
      exact ⟨⟨hrec, hheld⟩, hcache, fun x hx => absurd hx (by rw [hnil]; exact List.not_mem_nil)⟩
    · rintro ⟨⟨hrec, hheld⟩, hcache, -⟩
      have hknown := known_eq_some_iff.2 ⟨hcache, hrec⟩
      rw [h.withDirectory_of_known hknown]
      exact ⟨hknown, hheld⟩
  | some last =>
    rw [Stale, recorded_built, hlast, Option.some_or, h.find?_built h₀ hdigest hc hflat hslug hlast]
    constructor
    · rintro ⟨hl, e, he, hne⟩
      obtain rfl : last = html := Option.some.inj hl
      split at he
      next hkept =>
        obtain ⟨hknown, -, hall⟩ := hkept
        obtain ⟨hcache, hrec⟩ := known_eq_some_iff.1 hknown
        exact ⟨⟨hrec, e, he, hne⟩, hcache, hall⟩
      next => exact absurd (Option.some.inj he).symm hne
    · rintro ⟨⟨hrec, e, he, hne⟩, hcache, hall⟩
      obtain rfl : last = html := hall last (Run.mem_htmls_of_html? hlast)
      refine ⟨rfl, e, ?_, hne⟩
      rw [if_pos ⟨known_eq_some_iff.2 ⟨hcache, hrec⟩, by rw [FileTree.holds, he]; rfl, hall⟩, he]

/-- A successful build leaves its content in the place of a page, or the page is stale after it. -/
theorem find?_built_iff_not_stale (h : History digest dir t₀ acts t) (h₀ : NoManifest t₀ dir)
    (hdigest : NoCollision digest (contentsOf (.built r :: acts))) (hflat : r.Flat)
    (hc : r.Completes digest dir t d p) (hslug : FlatSlug slug) (hhtml : r.html? slug = some html) :
    (r.outcome digest dir t).tree.find? (dir.join (pageFile slug)) = some (.file html.toUTF8) ↔
      ¬Stale (.built r :: acts) (r.outcome digest dir t).tree dir slug html := by
  have hsome : ∃ e, (r.outcome digest dir t).tree.find? (dir.join (pageFile slug)) = some e := by
    rw [h.find?_built h₀ hdigest hc hflat hslug hhtml]
    split
    next hkept => exact Option.isSome_iff_exists.1 hkept.2.1
    next => exact ⟨_, rfl⟩
  obtain ⟨e, he⟩ := hsome
  rw [Stale, recorded_built, hhtml, he]
  by_cases heq : e = .file html.toUTF8 <;> simp [heq]

/-- **One act**: a stale file was stale before, and was spared. -/
theorem stale_leads_iff {act : Act} (h : History digest dir t₀ acts t) (h₀ : NoManifest t₀ dir)
    (hdigest : NoCollision digest (contentsOf (act :: acts))) (hact : ∀ r, act ≠ .stopped r)
    (leads : act.Leads digest dir t t') (hslug : FlatSlug slug) :
    Stale (act :: acts) t' dir slug html ↔
      Stale acts t dir slug html ∧ act.Spares slug html := by
  cases leads with
  | built flat ok =>
    obtain ⟨toc, d, p, hc, -⟩ := Run.exists_completes ok
    exact stale_built_iff h h₀ hdigest flat hc hslug
  | refused error rendering =>
    rw [Run.tree_of_refused error rendering]
    exact ⟨fun hs => ⟨hs, trivial⟩, And.left⟩
  | stopped made error => exact absurd rfl (hact _)
  | @deleted gone _ flat file =>
    by_cases hrec : recorded acts slug = some html
    · obtain ⟨d, ho⟩ := h.opens hrec
      rw [Stale, History.find?_delete ho flat file hslug]
      constructor
      · rintro ⟨-, e, he, hne⟩
        split at he
        · cases he
        next hs => exact ⟨⟨hrec, e, he, hne⟩, hs⟩
      · rintro ⟨⟨-, e, he, hne⟩, hs⟩
        exact ⟨hrec, e, by rw [if_neg hs, he], hne⟩
    · exact ⟨fun hs => absurd hs.1 hrec, fun hs => absurd hs.1.1 hrec⟩

/-- **How a stale file survives**: by being spared all the way. -/
theorem stale_iff {t₁ t₂ : FileTree} {later : List Act} (h : History digest dir t₀ acts t₁)
    (h₀ : NoManifest t₀ dir) (hlater : History digest dir t₁ later t₂)
    (hunstopped : Unstopped later) (hdigest : NoCollision digest (contentsOf (later ++ acts)))
    (hslug : FlatSlug slug) :
    Stale (later ++ acts) t₂ dir slug html ↔
      Stale acts t₁ dir slug html ∧ ∀ a ∈ later, a.Spares slug html := by
  induction hlater with
  | start => exact ⟨fun hs => ⟨hs, List.forall_mem_nil _⟩, And.left⟩
  | @next later act _ _ hlater leads ih =>
    have hrest : NoCollision digest (contentsOf (later ++ acts)) :=
      hdigest.mono (contentsOf_cons_subset act (later ++ acts))
    have hact : ∀ r, act ≠ .stopped r := fun r hr => hunstopped r (hr ▸ List.mem_cons_self)
    rw [List.cons_append, stale_leads_iff (h.append hlater) h₀ hdigest hact leads hslug,
      ih hunstopped.tail hrest, List.forall_mem_cons, and_assoc, and_comm (a := act.Spares _ _)]

/-! ### A stopped build to try -/

/-- A run whose second page has no directory to go to. -/
def twoPages : Run := .plain false [("index", "two"), ("missing/x", "three")]

/-- The page of `twoPages` that can be written. -/
def indexTwo : RenderedPage :=
  ⟨Run.plainPage "index" "two",
    Site.frame {} twoPages.pages (Run.plainPage "index" "two") (.ofHtml "two")⟩

/-- The page of `twoPages` that cannot be written. -/
def missingThree : RenderedPage :=
  ⟨Run.plainPage "missing/x" "three",
    Site.frame {} twoPages.pages (Run.plainPage "missing/x" "three") (.ofHtml "three")⟩

theorem renders_twoPages : twoPages.Renders := Run.renders_plain _ _

theorem rendered_twoPages : twoPages.rendered = [indexTwo] ++ missingThree :: [] :=
  Run.rendered_plain _ _

/-- The footers are the same, and the letters before them are not. -/
theorem onePageHtml_ne_indexTwo : onePageHtml ≠ indexTwo.content.html := by
  intro h
  have hlist := congrArg String.toList h
  rw [onePageHtml, indexTwo, Site.frame, Site.frame] at hlist
  simp only [String.toList_append] at hlist
  have hlast := congrArg List.getLast? (List.append_cancel_right hlist)
  rw [List.getLast?_append, List.getLast?_append] at hlast
  exact absurd hlast (by decide)

/-- Away from the two files, a first build leaves the directory as it was made. -/
theorem entry?_onePageTree (digest : String → String) {l : Location}
    (hindex : l ≠ ⟨"out/index.html"⟩) (hmanifest : l ≠ ⟨"out/.pages-manifest.json"⟩) :
    FileTree.entry? (onePageTree digest) l = FileTree.entry? (withDirectory .empty outDir) l := by
  obtain ⟨d, p, hc⟩ := onePage_completes digest
  have hd : d = ⟨"out"⟩ :=
    Option.some.inj (hc.opens.enters.symm.trans
      (by decide : (withDirectory .empty outDir).enter? .top outDir.steps = some ⟨"out"⟩))
  subst hd
  refine hc.entry?_eq flat_onePage hmanifest fun q hq => ?_
  rw [rendered_onePage, List.mem_singleton] at hq
  rw [hq]
  exact hindex

/-- The second page of `twoPages` leads nowhere after a build of one page. -/
theorem locate_missing {t : FileTree} (hkeeps : KeepsOthers (onePageTree digest) t) :
    t.locate (outDir.join (pageFile "missing/x")) = .error .notFound := by
  have hout : t.entry? ⟨"out"⟩ = some .directory := by
    refine hkeeps.directories _ ?_
    rw [entry?_onePageTree digest (by decide) (by decide)]
    decide
  have hmissing : t.entry? ⟨"out/missing"⟩ = none := by
    rw [hkeeps.others _ (by decide), entry?_onePageTree digest (by decide) (by decide)]
    decide
  have hsteps : (outDir.join (pageFile "missing/x")).steps = ["out", "missing", "x.html"] := by
    decide
  have hfault : (outDir.join (pageFile "missing/x")).fault? = none := by decide
  have hasks : (outDir.join (pageFile "missing/x")).asksDirectory = false := by decide
  have hout' : Location.top.below "out" = ⟨"out"⟩ := by decide
  have hmissing' : (⟨"out"⟩ : Location).below "missing" = ⟨"out/missing"⟩ := by decide
  rw [FileTree.locate, if_neg (by decide), hfault, hsteps, hasks]
  have hlen : "out".utf8ByteSize ≤ 255 ∧ "missing".utf8ByteSize ≤ 255 := by decide
  simp [FileTree.walk, hout', hout, hmissing', hmissing, Nat.not_lt.2 hlen.1, Nat.not_lt.2 hlen.2]

/-- A build of `twoPages` after a build of one page is stopped, and has replaced the one page. -/
theorem twoPages_stopped (digest : String → String) :
    (twoPages.outcome digest outDir (onePageTree digest)).result = .error (.file .notFound) ∧
      (twoPages.outcome digest outDir (onePageTree digest)).tree.find?
        (outDir.join (pageFile "index")) = some (.file indexTwo.content.html.toUTF8) := by
  obtain ⟨d, content, hopen, hmanifest⟩ := onePageTree_opens digest
  have hsame : withDirectory (onePageTree digest) outDir = onePageTree digest :=
    withDirectory_of_opens hopen
  have hindex : FlatSlug "index" := by decide
  have hflat : ∀ q ∈ [indexTwo], FlatSlug q.page.slug := fun q hq => by
    rw [List.mem_singleton.1 hq]
    exact hindex
  have hfirst : ∃ p', writePages digest outDir [indexTwo]
      (twoPages.start outDir (withDirectory (onePageTree digest) outDir)) = (p', .ok ()) := by
    rw [hsame]
    refine exists_writePages hopen hflat ?_ ?_ <;> intro q hq <;> rw [List.mem_singleton.1 hq]
    · decide
    · show (onePageTree digest).find? (outDir.join (pageFile "index")) ≠ _
      rw [find?_onePageTree]
      exact FileTree.some_file_ne_directory _
  obtain ⟨p', hp'⟩ := hfirst
  have hkeeps := keepsOthers_writePages hp'
  have hstate := fileState_writePages (hsame ▸ hopen) hflat hindex hp'
  rw [hsame] at hkeeps
  obtain ⟨hresult, htree⟩ := Run.outcome_of_writePage_error renders_twoPages
    (by rw [hopen.makeDirectories]) rendered_twoPages hp'
    (writePage_of_locate_error (locate_missing hkeeps))
  refine ⟨hresult, ?_⟩
  -- Without the cache nothing is noted, so the first page was written.
  rw [Run.fileState_start] at hstate
  rw [htree]
  exact congrArg FileState.held hstate

/-- The tree after `onePage` and the stopped `twoPages`. -/
def twoPagesTree (digest : String → String) : FileTree :=
  (twoPages.outcome digest outDir (onePageTree digest)).tree

theorem onePage_ok_after_twoPages (digest : String → String) :
    ∃ report, (onePage.outcome digest outDir (twoPagesTree digest)).result = .ok report := by
  obtain ⟨d, content, hopen, hmanifest⟩ := onePageTree_opens digest
  obtain ⟨hresult, hindex⟩ := twoPages_stopped digest
  have hkeeps := Run.keepsOthers_of_stopped (by rw [hopen.makeDirectories]) hresult
  rw [withDirectory_of_opens hopen] at hkeeps
  rw [twoPagesTree]
  refine onePage_ok_of_opens digest (hkeeps.opens hopen) ?_ ?_
  · rw [hindex]
    exact FileTree.some_file_ne_directory _
  · rw [hkeeps.find?_manifest hopen, hmanifest]
    exact FileTree.some_file_ne_directory _

/-- The next build of one page finds the digest it looks for, and leaves the other content. -/
theorem find?_onePage_after_twoPages (digest : String → String) :
    (onePage.outcome digest outDir (twoPagesTree digest)).tree.find?
      (outDir.join (pageFile "index")) = some (.file indexTwo.content.html.toUTF8) := by
  obtain ⟨d, content, hopen, hmanifest⟩ := onePageTree_opens digest
  obtain ⟨hresult, hindex⟩ := twoPages_stopped digest
  obtain ⟨report, hok⟩ := onePage_ok_after_twoPages digest
  obtain ⟨toc, d', p', hc', -⟩ := Run.exists_completes hok
  have hstopped : History digest outDir .empty [.stopped twoPages, .built onePage]
      (twoPagesTree digest) :=
    (history_onePage digest).next (.stopped (by rw [hopen.makeDirectories]) hresult)
  have hdigest : NoCollision digest
      (contentsOf [.built onePage, .stopped twoPages, .built onePage]) :=
    noCollision_onePage (by simp [contentsOf, contents_onePage])
  rw [hstopped.find?_built noManifest_empty hdigest hc' flat_onePage (by decide) html?_onePage,
    if_pos, twoPagesTree, hindex]
  refine ⟨recorded_onePage, ?_, ?_⟩
  · rw [FileTree.holds, twoPagesTree, hindex]
    rfl
  · rw [htmls_onePage]
    exact fun x hx => List.mem_singleton.1 hx

/-! ### Recovery -/

/-- **When a build recovers from a stopped one.** Let `f` be stopped after any history, and let `r`
be a later build with the cache that succeeds, with no stopped build in between. The file of a slug
then has the content that `r` has for it, unless this very content is recorded from before `f`,
something else is in its place after `f`, and nothing from there on ends that: the file is not
deleted, and every build, `r` included, uses the cache and has no other content for the file. In
that case what `f` left stays. -/
theorem recovers_iff {t₁ t₂ : FileTree} {later : List Act} {f : Run} {e : FileError}
    (h : History digest dir t₀ acts t₁) (h₀ : NoManifest t₀ dir)
    (hmade : (t₁.makeDirectories dir).2 = .ok ())
    (hstopped : (f.outcome digest dir t₁).result = .error (.file e))
    (hlater : History digest dir (f.outcome digest dir t₁).tree later t₂)
    (hunstopped : Unstopped later)
    (hdigest : NoCollision digest (contentsOf (.built r :: (later ++ .stopped f :: acts))))
    (hcache : r.useCache = true) (hflat : r.Flat)
    (hok : (r.outcome digest dir t₂).result = .ok report) (hhtml : r.html? slug = some html) :
    (r.outcome digest dir t₂).tree.readText (dir.join (pageFile slug)) = .ok html ↔
      ¬(recorded acts slug = some html ∧
        (∃ held, (f.outcome digest dir t₁).tree.find? (dir.join (pageFile slug)) = some held ∧
          held ≠ .file html.toUTF8) ∧
        (∀ a ∈ later, a.Spares slug html) ∧ ∀ x ∈ r.htmls slug, x = html) := by
  obtain ⟨toc, d, p, hc, -⟩ := Run.exists_completes hok
  have hslug := flatSlug_of_html? hc.renders hflat hhtml
  have hstop : History digest dir t₀ (.stopped f :: acts) (f.outcome digest dir t₁).tree :=
    h.next (.stopped hmade hstopped)
  have hrest : NoCollision digest (contentsOf (later ++ .stopped f :: acts)) :=
    hdigest.mono (contentsOf_cons_subset _ _)
  have hstale : Stale (later ++ .stopped f :: acts) t₂ dir slug html ↔
      Stale (.stopped f :: acts) (f.outcome digest dir t₁).tree dir slug html ∧
        ∀ a ∈ later, a.Spares slug html :=
    stale_iff hstop h₀ hlater hunstopped hrest hslug
  rw [FileTree.readText_eq_ok_iff,
    find?_built_iff_not_stale (hstop.append hlater) h₀ hdigest hflat hc hslug hhtml,
    stale_built_iff (hstop.append hlater) h₀ hdigest hflat hc hslug, hstale, Act.Spares, Stale]
  simp only [hcache, true_and, and_assoc]
  exact Iff.rfl

/-- The build of one page does not recover from `twoPages`. -/
theorem recovers_iff_onePage :
    (onePage.outcome Sha256.ofText outDir (twoPagesTree Sha256.ofText)).tree.readText
      (outDir.join (pageFile "index")) ≠ .ok onePageHtml := by
  obtain ⟨d, content, hopen, -⟩ := onePageTree_opens Sha256.ofText
  obtain ⟨hresult, hindex⟩ := twoPages_stopped Sha256.ofText
  obtain ⟨report, hok⟩ := onePage_ok_after_twoPages Sha256.ofText
  have hdigest : NoCollision Sha256.ofText
      (contentsOf [.built onePage, .stopped twoPages, .built onePage]) :=
    noCollision_onePage (by simp [contentsOf, contents_onePage])
  intro hread
  refine (recovers_iff (history_onePage Sha256.ofText) noManifest_empty
    (by rw [hopen.makeDirectories]) hresult .start (by simp [Unstopped]) hdigest rfl flat_onePage
    hok html?_onePage).1 hread ⟨recorded_onePage, ⟨_, hindex, ?_⟩,
      List.forall_mem_nil _, ?_⟩
  · exact fun he => onePageHtml_ne_indexTwo (String.toByteArray_inj.1 (Entry.file.inj he)).symm
  · rw [htmls_onePage]
    exact fun x hx => List.mem_singleton.1 hx

/-- Not every build recovers, even where no two contents have the same digest and the stopped build
comes directly before. -/
theorem not_every_build_recovers :
    ¬∀ (digest : String → String) (dir : Path) (t₀ t₁ : FileTree) (acts : List Act) (f r : Run)
      (e : FileError) (report : SiteReport) (slug html : String),
      NoManifest t₀ dir → History digest dir t₀ acts t₁ → (∀ a ∈ acts, ∃ b, a = .built b) →
      (t₁.makeDirectories dir).2 = .ok () →
      (f.outcome digest dir t₁).result = .error (.file e) →
      NoCollision digest (r.contents ++ f.contents ++ contentsOf acts) →
      r.useCache = true → r.Flat →
      (r.outcome digest dir (f.outcome digest dir t₁).tree).result = .ok report →
      r.html? slug = some html →
      (r.outcome digest dir (f.outcome digest dir t₁).tree).tree.readText
        (dir.join (pageFile slug)) = .ok html := by
  intro hall
  obtain ⟨d, content, hopen, -⟩ := onePageTree_opens id
  obtain ⟨report, hok⟩ := onePage_ok_after_twoPages id
  have hread := hall id outDir .empty (onePageTree id) [.built onePage] twoPages onePage .notFound
    report "index" onePageHtml noManifest_empty (history_onePage id)
    (fun a ha => ⟨onePage, List.mem_singleton.1 ha⟩) (by rw [hopen.makeDirectories])
    (twoPages_stopped id).1 (fun _ _ _ _ h => h) rfl flat_onePage hok html?_onePage
  have hfile := (find?_onePage_after_twoPages id).symm.trans (FileTree.readText_eq_ok_iff.1 hread)
  exact onePageHtml_ne_indexTwo
    (String.toByteArray_inj.1 (Entry.file.inj (Option.some.inj hfile))).symm

end Build

end StaticSite
