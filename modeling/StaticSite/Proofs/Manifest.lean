import StaticSite.Manifest
import StaticSite.Nav
import StaticSite.Proofs.FileTree.Directory
import StaticSite.Proofs.Json.RoundTrip
import StaticSite.Proofs.SortedMap

/-!
# Manifests from one build to the next

A build hands what it knows to the next one through the text of the manifest file, so what the next
build knows is what `Manifest.load` makes of what `Manifest.save` wrote.

## Main results

* `Manifest.ofText?_text` — the text of a manifest is read as the manifest
* `Manifest.load_of_save`, `Manifest.load_save` — loading from a directory gives back what was saved
  there, unless it is of another version
* `Manifest.save_save` — saving it once more changes nothing
* `Manifest.version_load` — whatever the file holds, a loaded manifest is of the current version
* `pageFile_injective`, `pageFile_ne_manifestFile` — pages and the manifest do not share a file
-/

namespace StaticSite

/-! ### Names of files -/

theorem toList_pageFile (slug : String) :
    (pageFile slug).toList = slug.toList ++ ['.', 'h', 't', 'm', 'l'] := by
  rw [pageFile, String.toList_append]
  rfl

theorem pageFile_injective {a b : String} (h : pageFile a = pageFile b) : a = b := by
  have h' := congrArg String.toList h
  rw [toList_pageFile, toList_pageFile] at h'
  exact String.toList_inj.1 (List.append_cancel_right h')

theorem pageFile_ne_manifestFile (slug : String) : pageFile slug ≠ manifestFile := by
  intro h
  have h' := congrArg (fun s : String => s.toList.getLast?) h
  rw [toList_pageFile] at h'
  simp only [List.getLast?_append, List.getLast?_cons_cons, List.getLast?_singleton,
    Option.some_or] at h'
  exact absurd h' (by decide)

/-- A slug without a slash gives the name of a file. -/
theorem isFileName_pageFile {slug : String} (h : '/' ∉ slug.toList) :
    IsFileName (pageFile slug) := by
  have hlen : 5 ≤ (pageFile slug).toList.length := by
    rw [toList_pageFile, List.length_append]
    exact Nat.le_add_left _ _
  have hne : ∀ s : String, s.toList.length < 5 → pageFile slug ≠ s := by
    rintro s hs rfl
    exact absurd hs (Nat.not_lt.2 hlen)
  refine ⟨?_, hne _ (by decide), hne _ (by decide), hne _ (by decide)⟩
  rw [toList_pageFile, List.mem_append, not_or]
  exact ⟨h, by decide⟩

theorem isFileName_manifestFile : IsFileName manifestFile :=
  ⟨by decide, by decide, by decide, by decide⟩

namespace Manifest

/-! ### The text of a manifest -/

theorem legible_toJson (m : Manifest) : m.toJson.Legible := by
  refine ⟨Json.Value.legible_nat m.version, ?_, trivial⟩
  refine Json.Value.legibleMembers_iff.2 fun x hx => ?_
  obtain ⟨e, -, rfl⟩ := List.mem_map.1 hx
  exact trivial

theorem entriesOfJson?_object (m : SortedMap String) :
    entriesOfJson? (.object (m.entries.map fun e => (e.1, .string e.2))) = some m := by
  have hm : ∀ l : List (String × String),
      (l.map fun e => (e.1, Json.Value.string e.2)).mapM entryOfMember? = some l := by
    intro l
    induction l with
    | nil => rfl
    | cons e rest ih => simp [ih, entryOfMember?, Json.Value.string?]
  rw [entriesOfJson?, hm, Option.map_some, SortedMap.ofList_entries]

theorem ofJson?_toJson (m : Manifest) : ofJson? m.toJson = some m := by
  have hversion : onlyMember? "version" [("version", Json.Value.nat m.version), ("entries",
      Json.Value.object (m.entries.entries.map fun e => (e.1, .string e.2)))] =
      some (.nat m.version) := by
    simp [onlyMember?]
  have hentries : onlyMember? "entries" [("version", Json.Value.nat m.version), ("entries",
      Json.Value.object (m.entries.entries.map fun e => (e.1, .string e.2)))] =
      some (.object (m.entries.entries.map fun e => (e.1, .string e.2))) := by
    simp [onlyMember?]
  simp [ofJson?, toJson, hversion, hentries, Json.Value.nat?_nat, entriesOfJson?_object]

/-- **The text of a manifest is read as the manifest.** Every other version is discarded. -/
theorem ofText?_text (m : Manifest) :
    ofText? m.text = if m.version = manifestVersion then some m else none := by
  rw [ofText?, text, Json.read_pretty m.legible_toJson, Option.bind_some, ofJson?_toJson]

/-! ### The manifest of a directory -/

/-- Whatever is in its place, a loaded manifest is of the version that is written. -/
theorem version_load (t : FileTree) (dir : Path) :
    (load t dir).manifest.version = manifestVersion := by
  rw [load]
  split
  · rfl
  · split
    next s _ m hm =>
      rw [ofText?] at hm
      split at hm
      · split at hm
        next hv => cases hm; exact hv
        next => cases hm
      · cases hm
    · rfl

variable {t t' : FileTree} {dir : Path} {d : Location}

/-- A directory without a manifest gives the empty one. -/
theorem load_of_find?_none (h : t.find? (dir.join manifestFile) = none) :
    load t dir = { manifest := empty } := by
  rw [load]
  cases hr : t.readText (dir.join manifestFile) with
  | error e => rfl
  | ok s =>
    rw [FileTree.readText_eq_ok_iff, h] at hr
    cases hr

/-- Trees with the same entry in the manifest's place give the same manifest. -/
theorem load_congr (h : t'.find? (dir.join manifestFile) = t.find? (dir.join manifestFile)) :
    load t' dir = load t dir := by
  have hread : ∀ s, t'.readText (dir.join manifestFile) = .ok s ↔
      t.readText (dir.join manifestFile) = .ok s := by
    intro s
    rw [FileTree.readText_eq_ok_iff, FileTree.readText_eq_ok_iff, h]
  rw [load, load]
  cases hr : t.readText (dir.join manifestFile) with
  | ok s => rw [(hread s).2 hr]
  | error e =>
    cases hr' : t'.readText (dir.join manifestFile) with
    | error e' => rfl
    | ok s =>
      rw [(hread s).1 hr'] at hr
      cases hr

/-- A manifest can be saved unless its path is refused or a directory is in its place. -/
theorem save_eq_ok_iff (ht : t.Opens dir d) {m : Manifest} :
    m.save t dir = .ok t' ↔
      dir.Admits manifestFile ∧ t.find? (dir.join manifestFile) ≠ some .directory ∧
        t' = t.put (d.below manifestFile) (.file m.text.toUTF8) :=
  ht.writeText_iff isFileName_manifestFile

/-- What is saved is the text of the manifest. -/
theorem find?_save (ht : t.Opens dir d) {m : Manifest} (h : m.save t dir = .ok t') :
    t'.find? (dir.join manifestFile) = some (.file m.text.toUTF8) := by
  obtain ⟨ha, hfree, rfl⟩ := (save_eq_ok_iff ht).1 h
  rw [ht.find?_put_join isFileName_manifestFile isFileName_manifestFile ha hfree, if_pos rfl]

/-- **Loading what was saved**, whatever its version is. -/
theorem load_of_save (ht : t.Opens dir d) {m : Manifest} (h : m.save t dir = .ok t') :
    (load t' dir).manifest = if m.version = manifestVersion then m else empty := by
  have hread : t'.readText (dir.join manifestFile) = .ok m.text :=
    FileTree.readText_eq_ok_iff.2 (find?_save ht h)
  rw [load, hread]
  by_cases hv : m.version = manifestVersion
  · simp only [ofText?_text, if_pos hv]
  · simp only [ofText?_text, if_neg hv]

/-- **Loading gives back what was saved.** -/
theorem load_save (ht : t.Opens dir d) {m : Manifest} (hv : m.version = manifestVersion)
    (h : m.save t dir = .ok t') : (load t' dir).manifest = m := by
  rw [load_of_save ht h, if_pos hv]

/-- Saving the same manifest once more changes nothing. -/
theorem save_save (ht : t.Opens dir d) {m : Manifest} (h : m.save t dir = .ok t') :
    m.save t' dir = .ok t' := by
  have hfile := find?_save ht h
  obtain ⟨ha, hfree, rfl⟩ := (save_eq_ok_iff ht).1 h
  rw [ht.find?_join isFileName_manifestFile, if_pos ha] at hfree
  refine (save_eq_ok_iff (ht.put_file hfree _)).2 ⟨ha, ?_, ?_⟩
  · rw [hfile]
    exact FileTree.some_file_ne_directory _
  · rw [FileTree.put_put_self]

end Manifest

end StaticSite
