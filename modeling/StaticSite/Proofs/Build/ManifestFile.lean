import StaticSite.Proofs.Build.Cache

/-!
# The file of the manifest

A manifest is kept as a text in the output directory. What one build knows the next one knows as
well, because reading the text gives back the manifest it was written from, with any texts as keys
and digests.

## What any file is read as

There need not be a manifest in the place of one: there may be a directory, bytes that are no text,
a text that is no JSON, or JSON of another shape or version. All of these are read as the manifest
without entries. So a loaded manifest is always of the version that is written, and since a build
starts from a loaded manifest or from the empty one, every manifest it saves is of that version too.

## Main results

* `Build.manifest_survives` — what is loaded after saving, and what a build saves
-/

namespace StaticSite

namespace Build

variable {digest : String → String} {dir : Path} {d : Location} {r : Run} {t : FileTree}

/-- **A successful run saves a manifest of the current version**, and the next run loads it. -/
theorem Run.exists_saved {report : SiteReport} (h : (r.outcome digest dir t).result = .ok report) :
    ∃ m : Manifest, m.version = manifestVersion ∧
      (r.outcome digest dir t).tree.find? (dir.join manifestFile) = some (.file m.text.toUTF8) ∧
      (Manifest.load (r.outcome digest dir t).tree dir).manifest = m := by
  obtain ⟨toc, d, p, hc, -⟩ := Run.exists_completes h
  have hversion : p.manifest.version = manifestVersion :=
    (version_writePages hc.writes).trans (Run.version_start r dir _)
  exact ⟨p.manifest, hversion, hc.find?_manifest, hc.load_after⟩

/-- **The file of a manifest gives the manifest back.** In a directory that is there, a manifest can
be saved unless its path is refused or a directory is in its place. Then the file is its text; it is
loaded as it was when it is of version 1, whatever its entries are, and saving what was loaded
leaves the same file; with any other version the empty manifest is loaded. Whatever the file holds,
the loaded manifest is of version 1. So is every manifest that a run saves: a run that succeeds
leaves the text of one, and a run that fails leaves what was in its place. -/
theorem manifest_survives (ht : t.Opens dir d) (m : Manifest) :
    ((∃ t', m.save t dir = .ok t') ↔
      dir.Admits manifestFile ∧ t.find? (dir.join manifestFile) ≠ some .directory) ∧
    (∀ t', m.save t dir = .ok t' →
      t'.find? (dir.join manifestFile) = some (.file m.text.toUTF8) ∧
      (m.version = 1 → (Manifest.load t' dir).manifest = m ∧
        (Manifest.load t' dir).manifest.save t' dir = .ok t') ∧
      (m.version ≠ 1 → (Manifest.load t' dir).manifest = Manifest.empty)) ∧
    (∀ t dir, (Manifest.load t dir).manifest.version = 1) ∧
    ∀ (digest : String → String) (dir : Path) (r : Run) (t : FileTree),
      (∀ report, (r.outcome digest dir t).result = .ok report →
        ∃ saved : Manifest, saved.version = 1 ∧
          (r.outcome digest dir t).tree.find? (dir.join manifestFile) =
            some (.file saved.text.toUTF8) ∧
          (Manifest.load (r.outcome digest dir t).tree dir).manifest = saved) ∧
      ∀ e, (r.outcome digest dir t).result = .error e →
        (r.outcome digest dir t).tree.find? (dir.join manifestFile) =
            t.find? (dir.join manifestFile) ∨
          (r.outcome digest dir t).tree.find? (dir.join manifestFile) =
            (withDirectory t dir).find? (dir.join manifestFile) := by
  refine ⟨⟨?_, ?_⟩, ?_, Manifest.version_load, fun digest dir r t => ⟨?_, ?_⟩⟩
  · rintro ⟨t', h⟩
    obtain ⟨hadmits, hfree, -⟩ := (Manifest.save_eq_ok_iff ht).1 h
    exact ⟨hadmits, hfree⟩
  · rintro ⟨hadmits, hfree⟩
    exact ⟨_, (Manifest.save_eq_ok_iff ht).2 ⟨hadmits, hfree, rfl⟩⟩
  · intro t' h
    refine ⟨Manifest.find?_save ht h, fun hversion => ?_, fun hversion => ?_⟩
    · have hload : (Manifest.load t' dir).manifest = m := Manifest.load_save ht hversion h
      rw [hload]
      exact ⟨rfl, Manifest.save_save ht h⟩
    · rw [Manifest.load_of_save ht h]
      exact if_neg hversion
  · exact fun report h => Run.exists_saved h
  · exact fun e h => Run.find?_manifest_of_error h

/-- Keys and digests with every kind of character that is escaped in the file, and an empty key. -/
def oddEntries : SortedMap String :=
  .ofList [("\"\\\x7d,\n", "\x00\x1f\x7f"), ("", "\u2028\t"), ("ä.html", "")]

theorem manifest_survives_odd :
    ∃ t', (⟨1, oddEntries⟩ : Manifest).save (withDirectory .empty outDir) outDir = .ok t' ∧
      (Manifest.load t' outDir).manifest = ⟨1, oddEntries⟩ := by
  have hopen : (withDirectory .empty outDir).Opens outDir ⟨"out"⟩ := ⟨by decide, by decide⟩
  obtain ⟨hsave, hload, -⟩ := manifest_survives hopen ⟨1, oddEntries⟩
  obtain ⟨t', h⟩ := hsave.2 ⟨by decide, by decide⟩
  exact ⟨t', h, ((hload t' h).2.1 rfl).1⟩

end Build

end StaticSite
