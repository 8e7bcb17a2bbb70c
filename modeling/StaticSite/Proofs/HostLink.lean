import StaticSite.Proofs.BaseUrl
import StaticSite.Proofs.LinkErrors

/-!
# Links below the project host

A link below the project host is the host base and a path. Either may be configured or written with
slashes at the place where they are joined, and these are taken away: the host base ends with none,
and of the path only what follows its leading slashes is used.

## Where a double slash can come from

Whatever the host URL is expanded to, there is one slash at the join, with another character on each
side of it. So the address has a double slash only where the base or the rest of the path has one,
and slashes added at the join are not seen in it. They are seen in an error: a path that is refused
is named as it was written.

## Main results

* `Project.hostBase_appendSlashes` — slashes behind the host URL do not change the base
* `Links.hasText_href_external_iff` — where the double slashes of an address are
* `Links.external_one_slash` — when there is a link, and what it does not depend on
-/

namespace StaticSite

namespace Text

/-- The text of so many slashes. -/
def slashes (n : Nat) : String := String.ofList (List.replicate n '/')

theorem toList_slashes (n : Nat) : (slashes n).toList = List.replicate n '/' :=
  String.toList_ofList

theorem slashesPaired_double : SlashesPaired ['/', '/'] := by
  intro before behind h
  rcases before with _ | ⟨a, _ | ⟨b, before⟩⟩
  · obtain rfl : ['/'] = behind := by simpa using h
    exact .inr rfl
  · obtain ⟨rfl, -⟩ : '/' = a ∧ behind = [] := by simpa using h
    exact .inl rfl
  · simp at h

theorem toList_dropLeadingSlashes (s : String) :
    (dropLeadingSlashes s).toList = s.toList.dropWhile (· == '/') :=
  String.toList_ofList

theorem dropLeadingSlashes_slashes_append (n : Nat) (s : String) :
    dropLeadingSlashes (slashes n ++ s) = dropLeadingSlashes s := by
  have hslash : ∀ c ∈ List.replicate n '/', (c == '/') = true := by
    intro c hc
    exact beq_iff_eq.2 (List.eq_of_mem_replicate hc)
  rw [← String.toList_inj, toList_dropLeadingSlashes, toList_dropLeadingSlashes,
    String.toList_append, toList_slashes, List.dropWhile_append_of_pos hslash]

end Text

theorem joinUrl_slashes_append (base : String) (n : Nat) (path : String) :
    joinUrl base (Text.slashes n ++ path) = joinUrl base path := by
  rw [joinUrl, joinUrl, Text.dropLeadingSlashes_slashes_append]

namespace Project

/-- The project with slashes put behind its host URL. -/
def appendSlashes (p : Project) (n : Nat) : Project :=
  { p with hostBaseUrl := p.hostBaseUrl ++ Text.slashes n }

/-- **Slashes behind the host URL do not change the base**: no placeholder ends in one, so they stay
behind everything else and are trimmed. -/
theorem hostBase_appendSlashes (p : Project) (n : Nat) :
    (p.appendSlashes n).hostBase = p.hostBase := by
  have hexpand : (p.appendSlashes n).hostBase = p.expand (p.hostBaseUrl ++ Text.slashes n) := rfl
  rw [hexpand, hostBase, ← String.toList_inj, toList_expand, toList_expand, String.toList_append,
    Text.toList_slashes,
    Text.replaceAll_append_replicate (by decide) (by decide : '/' ∉ placeholder.toList),
    Text.dropTrailing_run]

end Project

namespace Links

variable {l : Links} {path : String} {a : Anchor}

/-- The links of the same page with slashes put behind the host URL. -/
def appendSlashes (l : Links) (n : Nat) : Links :=
  { l with project := l.project.appendSlashes n }

theorem external_appendSlashes (l : Links) (n : Nat) (path : String) :
    (l.appendSlashes n).external path = l.external path := by
  have hbase : (l.appendSlashes n).project.hostBase = l.project.hostBase :=
    l.project.hostBase_appendSlashes n
  rw [external, external, hbase]

/-- The slashes in front of a path are not seen in the link that is composed from it. -/
theorem toOption_external_slashes_append (l : Links) (n : Nat) (path : String) :
    (l.external (Text.slashes n ++ path)).toOption = (l.external path).toOption := by
  rw [external, external, joinUrl_slashes_append]
  cases joinUrl l.project.hostBase path <;> rfl

/-- **Where the double slashes of an address are**: none comes about at the join. -/
theorem hasText_href_external_iff (h : l.external path = .ok a) :
    Text.hasText a.href "//" = true ↔
      Text.hasText l.project.hostBase "//" = true ∨
        Text.hasText (Text.dropLeadingSlashes path) "//" = true := by
  rw [Text.hasText_iff, Text.hasText_iff, Text.hasText_iff, href_external h,
    Text.toList_dropLeadingSlashes]
  exact Text.infix_join_iff Text.slashesPaired_double l.project.getLast?_hostBase
    (Text.head?_dropWhile_slash _)

/-- **One slash at the join.** A path is refused exactly when it has no character other than
slashes. Otherwise the address is the host base, a slash and the path without its leading slashes,
and it has a double slash exactly where one of the two has one. Slashes behind the host URL never
make a difference, not even to an error, and with any number of them in front of the path as well
there is the same link or none. -/
theorem external_one_slash (l : Links) (path : String) :
    (l.external path = .error (.invalidPath path) ↔ ¬∃ c ∈ path.toList, c ≠ '/') ∧
    ((∃ c ∈ path.toList, c ≠ '/') →
      ∃ a, l.external path = .ok a ∧
        a.href = l.project.hostBase ++ "/" ++ Text.dropLeadingSlashes path ∧
        (Text.hasText a.href "//" = true ↔
          Text.hasText l.project.hostBase "//" = true ∨
            Text.hasText (Text.dropLeadingSlashes path) "//" = true)) ∧
    ∀ m, (l.appendSlashes m).external path = l.external path ∧
      ∀ n, ((l.appendSlashes m).external (Text.slashes n ++ path)).toOption =
        (l.external path).toOption := by
  refine ⟨?_, fun hother => ?_, fun m => ⟨l.external_appendSlashes m path, fun n => ?_⟩⟩
  · rw [external_eq_error_iff, and_iff_left rfl]
    push Not
    rfl
  · obtain ⟨a, ha⟩ : ∃ a, l.external path = .ok a := by
      cases hlink : l.external path with
      | ok a => exact ⟨a, rfl⟩
      | error e =>
        obtain ⟨c, hc, hne⟩ := hother
        exact absurd ((external_eq_error_iff.1 hlink).1 c hc) hne
    refine ⟨a, ha, ?_, hasText_href_external_iff ha⟩
    rw [← String.toList_inj, href_external ha, String.toList_append, String.toList_append,
      Text.toList_dropLeadingSlashes, List.append_assoc]
    rfl
  · rw [external_appendSlashes, toOption_external_slashes_append]

/-- The links of a page, for a host with slashes behind the placeholder. -/
def trailingLinks : Links where
  project := Project.trailingSlashes.project
  policy := {}
  toc := {}
  currentPage := "download"

theorem external_one_slash_trailing :
    ∃ a, trailingLinks.external "//cvs//x" = .ok a ∧
      a.href = "https://example.org/jode/cvs//x" ∧
      ((trailingLinks.appendSlashes 3).external "////cvs//x").toOption = some a := by
  obtain ⟨-, hlink, hsame⟩ := external_one_slash trailingLinks "//cvs//x"
  obtain ⟨a, ha, hhref, -⟩ := hlink ⟨'c', by decide, by decide⟩
  refine ⟨a, ha, hhref, ?_⟩
  have hoption := (hsame 3).2 2
  rwa [ha] at hoption

end Links

end StaticSite
