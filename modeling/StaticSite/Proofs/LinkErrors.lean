import Mathlib.Data.List.TakeWhile
import StaticSite.Links
import StaticSite.Proofs.Config.Validity

/-!
# When a link cannot be composed

Each of the three kinds of links has one way to fail, and which one it is can be told from the
argument, the policy and the table of contents: the identity of the project never makes a link fail.

## Main results

* `Links.external_eq_error_iff` — a path without any character but slashes
* `Links.archive_eq_error_iff` — a qualifier with a path separator
* `Links.internal_eq_error_iff` — a section that is not registered, under a policy that minds
-/

namespace StaticSite

theorem Text.dropLeadingSlashes_eq_empty_iff {s : String} :
    dropLeadingSlashes s = "" ↔ ∀ c ∈ s.toList, c = '/' := by
  rw [dropLeadingSlashes, String.ofList_eq_empty_iff, List.dropWhile_eq_nil_iff]
  simp only [beq_iff_eq]

namespace Links

variable {l : Links} {path suffix id : String} {e : LinkError}

theorem external_eq_error_iff :
    l.external path = .error e ↔ (∀ c ∈ path.toList, c = '/') ∧ e = .invalidPath path := by
  rw [external, joinUrl, ← Text.dropLeadingSlashes_eq_empty_iff]
  by_cases h : Text.dropLeadingSlashes path = "" <;> simp [h, eq_comm]

theorem archive_eq_error_iff :
    l.archive suffix = .error e ↔ holdsSeparator suffix = true ∧ e = .invalidSuffix suffix := by
  rw [archive]
  cases h : holdsSeparator suffix <;> simp [eq_comm]

/-- A link to the section can be composed: it is registered, or the policy lets it through. -/
def admits (l : Links) (id : String) : Bool :=
  l.policy.unknownSections = .warn || l.toc.contains id

theorem admits_iff :
    l.admits id = true ↔ l.policy.unknownSections = .warn ∨ l.toc.pageOf id ≠ none := by
  simp [admits, Toc.contains, Option.isSome_iff_ne_none]

theorem internal_eq_error_iff :
    l.internal id = .error e ↔ l.admits id = false ∧ e = .unknownSection id := by
  rw [internal, ← Bool.not_eq_true, admits_iff]
  cases hpage : l.toc.pageOf id with
  | some page => simp
  | none => cases hpolicy : l.policy.unknownSections <;> simp [eq_comm]

end Links

end StaticSite
