import StaticSite.Config.Validity

/-!
# What validation lets through

Validation names the first fault, so a configuration is valid when there is none at all: neither in
the project's identity nor in any section. The sections are told here by what they may hold.

## Main results

* `SiteConfig.validate_eq_ok_iff` — no fault anywhere
* `Project.fault?_eq_none_iff` — what the settings of a project may be
* `Project.Usable.holdsSeparator_archiveFileName` — what that means for the files of a release
* `SectionEntry.fault?_eq_none_iff` — what an id and a page of a section may be
-/

namespace StaticSite

variable {c : SiteConfig} {s : SectionEntry}

theorem SiteConfig.validate_eq_ok_iff :
    c.validate = .ok () ↔ c.project.fault? = none ∧ ∀ s ∈ c.sections, s.fault? = none := by
  rw [validate, fault?]
  cases c.project.fault? with
  | some fault => simp
  | none =>
    rw [Option.none_or]
    cases h : c.sections.findSome? SectionEntry.fault? with
    | some fault =>
      obtain ⟨s, hs, hfault⟩ := List.exists_of_findSome?_eq_some h
      simp only [reduceCtorEq, true_and, false_iff]
      intro hall
      rw [hall s hs] at hfault
      cases hfault
    | none => simpa using h

theorem holdsSeparator_iff {text : String} :
    holdsSeparator text = true ↔ '/' ∈ text.toList ∨ '\\' ∈ text.toList := by
  simp [holdsSeparator, Text.hasChar]

theorem holdsSeparator_eq_false_iff {text : String} :
    holdsSeparator text = false ↔ '/' ∉ text.toList ∧ '\\' ∉ text.toList := by
  rw [← Bool.not_eq_true, holdsSeparator_iff, not_or]

theorem holdsSeparator_join (parts : List String) :
    holdsSeparator (String.join parts) = parts.any holdsSeparator := by
  rw [Bool.eq_iff_iff, holdsSeparator_iff, String.toList_join, List.any_eq_true]
  simp only [List.mem_flatMap, holdsSeparator_iff, and_or_left, exists_or]

/-- What is asked of a project's identity. -/
structure Project.Usable (p : Project) : Prop where
  name : Text.allBlank p.name = false
  bareName : holdsSeparator p.name = false
  version : Text.allBlank p.version = false
  bareVersion : holdsSeparator p.version = false
  solidVersion : p.version.toList.any Text.isBlank = false
  host : isAbsoluteUrl p.hostBaseUrl = true
  archiveHost : ∀ url, p.archiveBaseUrl = some url → url ≠ "" → isAbsoluteUrl url = true
  extension : p.archiveExtension ≠ ""
  dotlessExtension : p.archiveExtension.toList.head? ≠ some '.'
  bareExtension : holdsSeparator p.archiveExtension = false

/-- One check and then the others. -/
theorem check_eq_none_iff {bad : Bool} {fault : ConfigFault} {others : Option ConfigFault} :
    (if bad then some fault else others) = none ↔ bad = false ∧ others = none := by
  cases bad <;> simp

/-- **A project** has no fault when each of its settings is fit for links. Of the base URLs it is
only asked that there is a `://` in what was configured, before the placeholder is expanded. -/
theorem Project.fault?_eq_none_iff {p : Project} : p.fault? = none ↔ p.Usable := by
  have harchive : p.archiveBaseUrl.any (fun url => url != "" && !isAbsoluteUrl url) = false ↔
      ∀ url, p.archiveBaseUrl = some url → url ≠ "" → isAbsoluteUrl url = true := by
    cases p.archiveBaseUrl <;> simp
  simp only [fault?, check_eq_none_iff, Bool.or_eq_false_iff, Bool.not_eq_false', harchive,
    beq_eq_false_iff_ne, and_true]
  constructor
  · rintro ⟨hname, hbare, hversion, ⟨hbareVersion, hsolid⟩, hhost, harchive, ⟨hext, hdot⟩, hbareExt⟩
    exact ⟨hname, hbare, hversion, hbareVersion, hsolid, hhost, harchive, hext, hdot, hbareExt⟩
  · rintro ⟨hname, hbare, hversion, hbareVersion, hsolid, hhost, harchive, hext, hdot, hbareExt⟩
    exact ⟨hname, hbare, hversion, ⟨hbareVersion, hsolid⟩, hhost, harchive, ⟨hext, hdot⟩, hbareExt⟩

/-- **A separator in an archive's file name** is one of the qualifier. -/
theorem Project.Usable.holdsSeparator_archiveFileName {p : Project} (h : p.Usable)
    (suffix : String) : holdsSeparator (p.archiveFileName suffix) = holdsSeparator suffix := by
  have hdash : holdsSeparator "-" = false := by decide
  have hdot : holdsSeparator "." = false := by decide
  rw [archiveFileName, holdsSeparator_join]
  simp only [List.any_cons, List.any_nil, h.bareName, h.bareVersion, h.bareExtension, hdash, hdot,
    Bool.false_or, Bool.or_false]

/-- **A section** needs an id that can stand as a fragment, and some page. Nothing is asked of the
page beyond that. -/
theorem SectionEntry.fault?_eq_none_iff :
    s.fault? = none ↔
      s.id ≠ "" ∧ '#' ∉ s.id.toList ∧ '/' ∉ s.id.toList ∧ s.page ≠ "" := by
  rw [fault?]
  by_cases hid : s.id = "" ∨ '#' ∈ s.id.toList ∨ '/' ∈ s.id.toList
  · have hbad : (s.id == "" || Text.hasChar s.id '#' || Text.hasChar s.id '/') = true := by
      simpa [Text.hasChar, or_assoc] using hid
    rw [if_pos hbad]
    simp only [reduceCtorEq, false_iff]
    rintro ⟨hempty, hhash, hslash, -⟩
    exact hid.elim hempty fun h => h.elim hhash hslash
  · have hgood : ¬(s.id == "" || Text.hasChar s.id '#' || Text.hasChar s.id '/') = true := by
      simpa [Text.hasChar, or_assoc] using hid
    rw [if_neg hgood]
    simp only [not_or] at hid
    by_cases hpage : s.page = "" <;> simp [hpage, hid]

end StaticSite
