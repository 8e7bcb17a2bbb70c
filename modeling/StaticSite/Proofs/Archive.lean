import StaticSite.Proofs.BaseUrl
import StaticSite.Proofs.LinkErrors

/-!
# The file that an archive link names

The link to a released archive shows the archive's file name, and its address ends with it. This
module says that the two are the same whoever reads the address: the file name is what stands behind
the last slash.

## What it rests on

Validation asks three settings for the absence of path separators, and the link asks the qualifier.
The file name is made of these four and of marks that are no separators, so it has none, and the
last slash of the address is the one that was put in front of it. Nothing is asked of the base: it
may be expanded from any URL, with the name in place of the placeholder, and is trimmed at the end.

## Main results

* `Text.cutLast?_append` — where a text is cut at its last slash
* `Links.archive_names_one_file` — when there is a link, what it shows and what it leads to
-/

namespace StaticSite

namespace Text

variable {c : Char} {s before behind : List Char}

/-- What stands before and behind the last place where `c` stands. -/
def cutLast? (c : Char) : List Char → Option (List Char × List Char)
  | [] => none
  | x :: rest =>
    match cutLast? c rest with
    | some (before, behind) => some (x :: before, behind)
    | none => if x = c then some ([], rest) else none

theorem cutLast?_eq_none_iff : cutLast? c s = none ↔ c ∉ s := by
  induction s with
  | nil => simp [cutLast?]
  | cons x rest ih =>
    rw [cutLast?, List.mem_cons, not_or, ← ih]
    cases cutLast? c rest with
    | some parts => simp
    | none => simp [eq_comm]

/-- **A list is cut at the last place**: the character does not stand behind it again. -/
theorem cutLast?_append (h : c ∉ behind) (before : List Char) :
    cutLast? c (before ++ c :: behind) = some (before, behind) := by
  induction before with
  | nil =>
    rw [List.nil_append, cutLast?, cutLast?_eq_none_iff.2 h]
    exact if_pos rfl
  | cons x before ih => rw [List.cons_append, cutLast?, ih]

end Text

theorem Project.archiveFileName_eq (p : Project) (suffix : String) :
    p.archiveFileName suffix =
      p.name ++ "-" ++ p.version ++ suffix ++ "." ++ p.archiveExtension := by
  rw [← String.toList_inj, archiveFileName, String.toList_join]
  simp

namespace Links

/-- **An archive link and its text name the same file.** It is refused exactly for a qualifier with
a separator, and otherwise shows the file name made of the settings and the qualifier. The name has
no separator, and it is what stands behind the last slash of the address; what stands before is the
archive base, which does not end with a slash itself. -/
theorem archive_names_one_file {config : SiteConfig} (hvalid : config.validate = .ok ())
    {l : Links} (hl : l.project = config.project) (suffix : String) :
    (l.archive suffix = .error (.invalidSuffix suffix) ↔
      '/' ∈ suffix.toList ∨ '\\' ∈ suffix.toList) ∧
    (¬('/' ∈ suffix.toList ∨ '\\' ∈ suffix.toList) →
      ∃ a file, l.archive suffix = .ok a ∧ a.text? = some file ∧
        file = config.project.name ++ "-" ++ config.project.version ++ suffix ++ "." ++
          config.project.archiveExtension ∧
        '/' ∉ file.toList ∧ '\\' ∉ file.toList ∧
        Text.cutLast? '/' a.href.toList =
          some (config.project.archiveBase.toList, file.toList) ∧
        config.project.archiveBase.toList.getLast? ≠ some '/') := by
  have husable := Project.fault?_eq_none_iff.1 (SiteConfig.validate_eq_ok_iff.1 hvalid).1
  rw [← hl] at husable ⊢
  rw [archive_eq_error_iff, holdsSeparator_iff]
  refine ⟨and_iff_left rfl, fun hplain => ?_⟩
  rw [← holdsSeparator_iff, Bool.not_eq_true] at hplain
  have hbare : holdsSeparator (l.project.archiveFileName suffix) = false := by
    rw [husable.holdsSeparator_archiveFileName, hplain]
  obtain ⟨hslash, hbackslash⟩ := holdsSeparator_eq_false_iff.1 hbare
  have hok : l.archive suffix = .ok
      { href := l.project.archiveBase ++ "/" ++ l.project.archiveFileName suffix
        text? := some (l.project.archiveFileName suffix) } := by
    rw [archive, hplain]
    rfl
  refine ⟨_, _, hok, rfl, l.project.archiveFileName_eq suffix, hslash, hbackslash, ?_,
    l.project.getLast?_archiveBase⟩
  rw [(href_archive hok).2, Text.cutLast?_append hslash]

/-- The links of a page, for a host with slashes behind the placeholder. -/
def mirrorLinks : Links where
  project := Project.trailingSlashes.project
  policy := {}
  toc := {}
  currentPage := "download"

theorem archive_names_one_file_mirror :
    mirrorLinks.archive "../x" = .error (.invalidSuffix "../x") ∧
      ∃ a, mirrorLinks.archive "-1.2" = .ok a ∧ a.text? = some "jode-1.1-1.2.jar" ∧
        Text.cutLast? '/' a.href.toList =
          some ("https://example.org/jode".toList, "jode-1.1-1.2.jar".toList) := by
  have hvalid : Project.trailingSlashes.validate = .ok () := rfl
  have hlinks := archive_names_one_file hvalid (l := mirrorLinks) rfl
  obtain ⟨a, file, ha, htext, hfile, -, -, hcut, -⟩ := (hlinks "-1.2").2 (by decide)
  obtain rfl : file = "jode-1.1-1.2.jar" := hfile
  exact ⟨(hlinks "../x").1.2 (by decide), a, ha, htext, hcut⟩

end Links

end StaticSite
