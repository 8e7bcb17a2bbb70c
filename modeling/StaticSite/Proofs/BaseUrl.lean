import StaticSite.Links
import StaticSite.Proofs.Config.Validity
import StaticSite.Proofs.Text.Search

/-!
# Base URLs after expansion

A base URL is configured as a text with a placeholder. Links are composed from what it is expanded
to and trimmed, but validation looks at what was configured.

## The distinction that decides it

A URL is absolute when it has an authority: a `://` with something behind it. Validation asks for
the `://` alone. Expansion keeps it, and what stands behind it, because the placeholder has none of
its characters; but trimming takes the slashes of the `://` away when there is nothing but slashes
behind it. So a URL with nothing but slashes behind its `://` is valid, and no base comes of it that
is absolute.

There is one more way to an authority. The name is put in place of the placeholder and may end with
a colon, so a placeholder with two slashes behind it can become a `://` that was not configured.

## Main results

* `Text.namesHost_replaceAll` — where expansion leaves or makes an authority
* `Project.hasAuthority_expand_iff` — when a base has an authority
* `Project.base_absolute_iff` — the bases and the links of a valid configuration
* `Project.not_every_base_is_absolute` — a valid configuration whose bases are not absolute
-/

namespace StaticSite

/-! ### Authorities -/

namespace Text

/-- The list begins with two slashes that a host stands behind: something other than slashes. -/
def BeginsAuthority (s : List Char) : Prop :=
  ∃ behind, s = '/' :: '/' :: behind ∧ ∃ c ∈ behind, c ≠ '/'

/-- There is a `://` in the list with something other than slashes behind it. -/
def NamesHost (s : List Char) : Prop :=
  ∃ behind, ':' :: '/' :: '/' :: behind <:+ s ∧ ∃ c ∈ behind, c ≠ '/'

/-- There is an occurrence of `needle` in the list that an authority begins behind. -/
def HostBehind (needle s : List Char) : Prop :=
  ∃ behind, needle ++ behind <:+ s ∧ BeginsAuthority behind

variable {needle replacement s t : List Char} {c : Char}

theorem not_beginsAuthority_cons (h : c ≠ '/') : ¬BeginsAuthority (c :: s) := by
  rintro ⟨behind, heq, -⟩
  exact h (List.cons.inj heq).1

theorem not_namesHost_nil : ¬NamesHost [] := by
  rintro ⟨behind, hsuffix, -⟩
  exact absurd (List.suffix_nil.1 hsuffix) (List.cons_ne_nil _ _)

theorem namesHost_cons : NamesHost (c :: s) ↔ c = ':' ∧ BeginsAuthority s ∨ NamesHost s := by
  constructor
  · rintro ⟨behind, hsuffix, hother⟩
    rcases List.suffix_cons_iff.1 hsuffix with heq | hsuffix
    · obtain ⟨rfl, rfl⟩ := List.cons.inj heq
      exact .inl ⟨rfl, behind, rfl, hother⟩
    · exact .inr ⟨behind, hsuffix, hother⟩
  · rintro (⟨rfl, behind, rfl, hother⟩ | ⟨behind, hsuffix, hother⟩)
    · exact ⟨behind, List.suffix_refl _, hother⟩
    · exact ⟨behind, hsuffix.trans (List.suffix_cons _ _), hother⟩

/-- A text without slashes makes an authority only where its last character and two slashes do. -/
theorem namesHost_append (hslash : '/' ∉ t) (hne : t ≠ []) :
    NamesHost (t ++ s) ↔ t.getLast? = some ':' ∧ BeginsAuthority s ∨ NamesHost s := by
  induction t with
  | nil => exact absurd rfl hne
  | cons c rest ih =>
    rw [List.mem_cons, not_or] at hslash
    rw [List.cons_append, namesHost_cons]
    cases rest with
    | nil => simp
    | cons d rest =>
      have hd : d ≠ '/' := fun heq => hslash.2 (heq ▸ List.mem_cons_self)
      rw [ih hslash.2 (List.cons_ne_nil _ _), List.getLast?_cons_cons]
      simp only [List.cons_append, not_beginsAuthority_cons hd, and_false, false_or]

/-! ### Expansion -/

theorem hostBehind_cons (h : ¬needle <+: c :: s) :
    HostBehind needle (c :: s) ↔ HostBehind needle s := by
  constructor
  · rintro ⟨behind, hsuffix, hhost⟩
    rcases List.suffix_cons_iff.1 hsuffix with heq | hsuffix
    · exact absurd (heq ▸ List.prefix_append _ _) h
    · exact ⟨behind, hsuffix, hhost⟩
  · rintro ⟨behind, hsuffix, hhost⟩
    exact ⟨behind, hsuffix.trans (List.suffix_cons _ _), hhost⟩

/-- What the expansion of a list needs: neither text has a slash, and there is something to find and
something to put in its place. -/
structure Expands (needle replacement : List Char) : Prop where
  needle_ne_nil : needle ≠ []
  replacement_ne_nil : replacement ≠ []
  slash_not_mem_needle : '/' ∉ needle
  slash_not_mem_replacement : '/' ∉ replacement

namespace Expands

theorem exists_ne_slash_replaceAll (h : Expands needle replacement) (s : List Char) :
    (∃ c ∈ replaceAll needle replacement s, c ≠ '/') ↔ ∃ c ∈ s, c ≠ '/' := by
  have hsome : ∀ l : List Char, l ≠ [] → '/' ∉ l → ∃ c ∈ l, c ≠ '/' := by
    intro l hl hslash
    obtain ⟨c, hc⟩ := List.exists_mem_of_ne_nil l hl
    exact ⟨c, hc, fun heq => hslash (heq ▸ hc)⟩
  induction s using needle_induction h.needle_ne_nil with
  | nil => rw [replaceAll_nil]
  | found s _ =>
    obtain ⟨c, hc, hne⟩ := hsome _ h.replacement_ne_nil h.slash_not_mem_replacement
    obtain ⟨d, hd, hne'⟩ := hsome _ h.needle_ne_nil h.slash_not_mem_needle
    rw [replaceAll_needle_append h.needle_ne_nil]
    exact iff_of_true ⟨c, List.mem_append_left _ hc, hne⟩ ⟨d, List.mem_append_left _ hd, hne'⟩
  | other c s hno ih =>
    rw [replaceAll_cons hno]
    simp only [List.mem_cons, exists_eq_or_imp, ih]

/-- A slash at the front is one that was there before. -/
theorem replaceAll_eq_slash_cons_iff (h : Expands needle replacement) {s t : List Char} :
    replaceAll needle replacement s = '/' :: t ↔
      ∃ s', s = '/' :: s' ∧ t = replaceAll needle replacement s' := by
  have hfront : ∀ l r u : List Char, l ≠ [] → '/' ∉ l → l ++ r ≠ '/' :: u := by
    intro l r u hl hslash heq
    cases l with
    | nil => exact hl rfl
    | cons c rest => exact hslash ((List.cons.inj heq).1 ▸ List.mem_cons_self)
  induction s using needle_induction h.needle_ne_nil with
  | nil => simp
  | found s _ =>
    rw [replaceAll_needle_append h.needle_ne_nil]
    refine iff_of_false (hfront _ _ _ h.replacement_ne_nil h.slash_not_mem_replacement) ?_
    rintro ⟨s', heq, -⟩
    exact hfront _ _ _ h.needle_ne_nil h.slash_not_mem_needle heq
  | other c s hno _ =>
    rw [replaceAll_cons hno, List.cons.injEq]
    constructor
    · rintro ⟨rfl, rfl⟩
      exact ⟨s, rfl, rfl⟩
    · rintro ⟨s', heq, rfl⟩
      obtain ⟨rfl, rfl⟩ := List.cons.inj heq
      exact ⟨rfl, rfl⟩

theorem beginsAuthority_replaceAll (h : Expands needle replacement) (s : List Char) :
    BeginsAuthority (replaceAll needle replacement s) ↔ BeginsAuthority s := by
  constructor
  · rintro ⟨behind, heq, hother⟩
    obtain ⟨s₁, rfl, hs₁⟩ := h.replaceAll_eq_slash_cons_iff.1 heq
    obtain ⟨s₂, rfl, rfl⟩ := h.replaceAll_eq_slash_cons_iff.1 hs₁.symm
    exact ⟨s₂, rfl, (h.exists_ne_slash_replaceAll s₂).1 hother⟩
  · rintro ⟨behind, rfl, hother⟩
    have hrest : replaceAll needle replacement ('/' :: behind) =
        '/' :: replaceAll needle replacement behind :=
      h.replaceAll_eq_slash_cons_iff.2 ⟨behind, rfl, rfl⟩
    refine ⟨replaceAll needle replacement behind, ?_,
      (h.exists_ne_slash_replaceAll behind).2 hother⟩
    exact h.replaceAll_eq_slash_cons_iff.2 ⟨'/' :: behind, rfl, hrest.symm⟩

end Expands

/-- Inside an occurrence no other one begins: its first character stands there only once. -/
theorem hostBehind_needle_append {first : Char} {rest : List Char} (hfirst : first ∉ rest) :
    HostBehind (first :: rest) (first :: rest ++ s) ↔
      BeginsAuthority s ∨ HostBehind (first :: rest) s := by
  have hinside : ∀ l : List Char, first ∉ l →
      (HostBehind (first :: rest) (l ++ s) ↔ HostBehind (first :: rest) s) := by
    intro l hl
    induction l with
    | nil => rfl
    | cons c l ih =>
      rw [List.mem_cons, not_or] at hl
      have hno : ¬first :: rest <+: c :: (l ++ s) := fun h => hl.1 (List.cons_prefix_cons.1 h).1
      rw [List.cons_append, hostBehind_cons hno, ih hl.2]
  constructor
  · rintro ⟨behind, hsuffix, hhost⟩
    rcases List.suffix_cons_iff.1 hsuffix with heq | hsuffix
    · obtain rfl : behind = s := List.append_cancel_left heq
      exact .inl hhost
    · exact .inr ((hinside rest hfirst).1 ⟨behind, hsuffix, hhost⟩)
  · rintro (hhost | ⟨behind, hsuffix, hhost⟩)
    · exact ⟨s, List.suffix_refl _, hhost⟩
    · exact ⟨behind, hsuffix.trans (List.suffix_append _ _), hhost⟩

/-- **Where expansion leaves or makes an authority.** -/
theorem namesHost_replaceAll {first : Char} {rest : List Char}
    (h : Expands (first :: rest) replacement) (hfirst : first ∉ rest)
    (hcolon : (first :: rest).getLast? ≠ some ':') (s : List Char) :
    NamesHost (replaceAll (first :: rest) replacement s) ↔
      NamesHost s ∨ replacement.getLast? = some ':' ∧ HostBehind (first :: rest) s := by
  induction s using needle_induction h.needle_ne_nil with
  | nil =>
    rw [replaceAll_nil]
    refine iff_of_false not_namesHost_nil ?_
    rintro (hno | ⟨-, behind, hsuffix, -⟩)
    · exact not_namesHost_nil hno
    · exact absurd (List.suffix_nil.1 hsuffix) (List.cons_ne_nil _ _)
  | found s ih =>
    rw [replaceAll_needle_append h.needle_ne_nil,
      namesHost_append h.slash_not_mem_replacement h.replacement_ne_nil,
      h.beginsAuthority_replaceAll, ih, namesHost_append h.slash_not_mem_needle h.needle_ne_nil,
      hostBehind_needle_append hfirst]
    simp only [hcolon, false_and, false_or]
    tauto
  | other c s hno ih =>
    rw [replaceAll_cons hno, namesHost_cons, h.beginsAuthority_replaceAll, ih, namesHost_cons,
      hostBehind_cons hno, or_assoc]

/-! ### Trimming -/

/-- What is left of a text has an authority exactly when there was a host to begin with. -/
theorem hasAuthority_dropTrailing_iff :
    (∃ behind, ':' :: '/' :: '/' :: behind <:+ dropTrailing '/' s ∧ behind ≠ []) ↔
      NamesHost s := by
  constructor
  · rintro ⟨behind, ⟨before, heq⟩, hne⟩
    obtain ⟨n, hn⟩ := exists_eq_dropTrailing_append '/' s
    refine ⟨behind ++ List.replicate n '/', ⟨before, ?_⟩, ?_⟩
    · rw [hn, ← heq]
      simp
    · have hlast : behind.getLast hne ≠ '/' := by
        intro hslash
        refine getLast?_dropTrailing '/' s ?_
        rw [← heq, List.getLast?_append_of_ne_nil _ (List.cons_ne_nil _ _)]
        simp [List.getLast?_cons, List.getLast?_eq_some_getLast hne, hslash]
      exact ⟨_, List.mem_append_left _ (List.getLast_mem hne), hlast⟩
  · rintro ⟨behind, ⟨before, rfl⟩, hother⟩
    refine ⟨dropTrailing '/' behind, ⟨before, ?_⟩, dropTrailing_ne_nil hother⟩
    have hsplit : before ++ ':' :: '/' :: '/' :: behind = before ++ [':', '/', '/'] ++ behind := by
      simp
    rw [hsplit, dropTrailing_append hother]
    simp

/-! ### Joining -/

/-- No slash of the list stands alone: another one stands right before it or right behind it. -/
def SlashesPaired (needle : List Char) : Prop :=
  ∀ before behind, needle = before ++ '/' :: behind →
    before.getLast? = some '/' ∨ behind.head? = some '/'

/-- Where neither the base nor the path has a slash at the join, nothing comes about there whose
slashes are paired: the slash of the join stands alone. -/
theorem infix_join_iff (hneedle : SlashesPaired needle) {base path : List Char}
    (hbase : base.getLast? ≠ some '/') (hpath : path.head? ≠ some '/') :
    needle <:+: base ++ '/' :: path ↔ needle <:+: base ∨ needle <:+: path := by
  have hno : ∀ before behind, needle = before ++ '/' :: behind → before <:+ base →
      ¬behind <+: path := by
    rintro before behind hsplit ⟨front, rfl⟩ ⟨rest, rfl⟩
    rcases hneedle before behind hsplit with hlast | hhead
    · exact hbase (by rw [List.getLast?_append, hlast, Option.some_or])
    · exact hpath (by rw [List.head?_append, hhead, Option.some_or])
  constructor
  · intro h
    rcases List.infix_append_iff.1 h with h | h | ⟨before, behind, hsplit, hsuffix, hprefix⟩
    · exact .inl h
    · rcases List.infix_cons_iff.1 h with hprefix | h
      · cases needle with
        | nil => exact .inl List.nil_infix
        | cons c behind =>
          obtain ⟨rfl, hbehind⟩ := List.cons_prefix_cons.1 hprefix
          exact absurd hbehind (hno [] behind rfl List.nil_suffix)
      · exact .inr h
    · cases behind with
      | nil =>
        rw [List.append_nil] at hsplit
        exact .inl (hsplit ▸ hsuffix.isInfix)
      | cons c behind =>
        obtain ⟨rfl, hbehind⟩ := List.cons_prefix_cons.1 hprefix
        exact absurd hbehind (hno before behind hsplit hsuffix)
  · rintro (h | h)
    · exact h.trans (List.prefix_append _ _).isInfix
    · exact h.trans ((List.suffix_cons _ _).trans (List.suffix_append _ _)).isInfix

theorem slashesPaired_scheme : SlashesPaired [':', '/', '/'] := by
  intro before behind h
  rcases before with _ | ⟨a, _ | ⟨b, _ | ⟨c, before⟩⟩⟩
  · exact absurd (List.cons.inj h).1 (by decide)
  · obtain ⟨-, rfl⟩ : ':' = a ∧ ['/'] = behind := by simpa using h
    exact .inr rfl
  · obtain ⟨-, rfl, -⟩ : ':' = a ∧ '/' = b ∧ behind = [] := by simpa using h
    exact .inl rfl
  · simp at h

/-- A `://` does not come about where a base and a path are joined: neither has a slash there. -/
theorem scheme_infix_join_iff {base path : List Char} (hbase : base.getLast? ≠ some '/')
    (hpath : path.head? ≠ some '/') :
    [':', '/', '/'] <:+: base ++ '/' :: path ↔
      [':', '/', '/'] <:+: base ∨ [':', '/', '/'] <:+: path :=
  infix_join_iff slashesPaired_scheme hbase hpath

/-- Without its leading slashes, a path does not begin with one. -/
theorem head?_dropWhile_slash (path : List Char) :
    (path.dropWhile (· == '/')).head? ≠ some '/' := by
  intro hhead
  have hnot := List.head?_dropWhile_not (· == '/') path
  rw [hhead] at hnot
  exact absurd hnot (by decide)

/-- Slashes at the start are no part of a `://`. -/
theorem scheme_infix_dropWhile_iff {path : List Char} :
    [':', '/', '/'] <:+: path.dropWhile (· == '/') ↔ [':', '/', '/'] <:+: path := by
  induction path with
  | nil => rfl
  | cons c rest ih =>
    by_cases hc : c = '/'
    · subst hc
      rw [List.dropWhile_cons_of_pos rfl, ih, List.infix_cons_iff, List.cons_prefix_cons]
      simp
    · rw [List.dropWhile_cons_of_neg (by simpa using hc)]

end Text

/-- The URL has a `://` with something behind it. -/
def HasAuthority (url : String) : Prop :=
  ∃ behind, ':' :: '/' :: '/' :: behind <:+ url.toList ∧ behind ≠ []

theorem isAbsoluteUrl_iff {url : String} :
    isAbsoluteUrl url = true ↔ [':', '/', '/'] <:+: url.toList :=
  Text.hasText_iff

/-- Where a URL does not end with a slash, there is something behind each `://`. -/
theorem hasAuthority_iff {url : String} (h : url.toList.getLast? ≠ some '/') :
    HasAuthority url ↔ isAbsoluteUrl url = true := by
  rw [isAbsoluteUrl_iff]
  constructor
  · rintro ⟨behind, ⟨before, heq⟩, -⟩
    exact ⟨before, behind, by rw [← heq]; simp⟩
  · rintro ⟨before, behind, heq⟩
    refine ⟨behind, ⟨before, by rw [← heq]; simp⟩, ?_⟩
    rintro rfl
    exact h (by rw [← heq]; simp)

namespace Project

variable {p : Project} {url : String}

/-- The configured URL names a host that expansion and trimming leave in place: behind a `://`, or
behind a placeholder that becomes one because the name ends with a colon. -/
def KeepsAuthority (p : Project) (url : String) : Prop :=
  Text.NamesHost url.toList ∨
    p.name.toList.getLast? = some ':' ∧ Text.HostBehind placeholder.toList url.toList

theorem toList_expand (p : Project) (url : String) :
    (p.expand url).toList =
      Text.dropTrailing '/' (Text.replaceAll placeholder.toList p.name.toList url.toList) := by
  rw [expand, Text.dropTrailingSlashes, String.toList_ofList, String.toList_ofList]

/-- A base does not end with a slash. -/
theorem getLast?_expand (p : Project) (url : String) :
    (p.expand url).toList.getLast? ≠ some '/' := by
  rw [toList_expand]
  exact Text.getLast?_dropTrailing _ _

theorem getLast?_hostBase (p : Project) : p.hostBase.toList.getLast? ≠ some '/' :=
  p.getLast?_expand _

theorem getLast?_archiveBase (p : Project) : p.archiveBase.toList.getLast? ≠ some '/' :=
  p.getLast?_expand _

/-- A name that is fit for links can be put in place of the placeholder. -/
theorem Usable.expands (h : p.Usable) : Text.Expands placeholder.toList p.name.toList where
  needle_ne_nil := by decide
  replacement_ne_nil := by
    intro hnil
    have hblank := h.name
    rw [Text.allBlank, hnil] at hblank
    cases hblank
  slash_not_mem_needle := by decide
  slash_not_mem_replacement := (holdsSeparator_eq_false_iff.1 h.bareName).1

/-- **When a base has an authority.** -/
theorem hasAuthority_expand_iff (h : p.Usable) :
    HasAuthority (p.expand url) ↔ p.KeepsAuthority url := by
  rw [HasAuthority, toList_expand, Text.hasAuthority_dropTrailing_iff, KeepsAuthority]
  exact Text.namesHost_replaceAll h.expands (by decide) (by decide) url.toList

end Project

namespace Links

variable {l : Links} {path suffix : String} {a : Anchor}

/-- A link below the project host is its base and its path, with one slash between them. -/
theorem href_external (h : l.external path = .ok a) :
    a.href.toList =
      l.project.hostBase.toList ++ '/' :: path.toList.dropWhile (· == '/') := by
  have hbase : Text.dropTrailing '/' l.project.hostBase.toList = l.project.hostBase.toList :=
    Text.dropTrailing_of_getLast? l.project.getLast?_hostBase
  rw [external, joinUrl] at h
  by_cases htail : Text.dropLeadingSlashes path = ""
  · rw [if_pos htail] at h
    cases h
  · rw [if_neg htail] at h
    obtain rfl := Except.ok.inj h
    simp [Text.dropTrailingSlashes, Text.dropLeadingSlashes, hbase]

/-- A link to an archive is its base and the archive's file name, with a slash between them. -/
theorem href_archive (h : l.archive suffix = .ok a) :
    holdsSeparator suffix = false ∧
      a.href.toList =
        l.project.archiveBase.toList ++ '/' :: (l.project.archiveFileName suffix).toList := by
  rw [archive] at h
  cases hsuffix : holdsSeparator suffix with
  | true =>
    rw [hsuffix, if_pos rfl] at h
    cases h
  | false =>
    rw [hsuffix, if_neg Bool.false_ne_true] at h
    obtain rfl := Except.ok.inj h
    simp

theorem isAbsoluteUrl_external_iff (h : l.external path = .ok a) :
    isAbsoluteUrl a.href = true ↔
      isAbsoluteUrl l.project.hostBase = true ∨ isAbsoluteUrl path = true := by
  rw [isAbsoluteUrl_iff, href_external h,
    Text.scheme_infix_join_iff l.project.getLast?_hostBase (Text.head?_dropWhile_slash _),
    Text.scheme_infix_dropWhile_iff, ← isAbsoluteUrl_iff, ← isAbsoluteUrl_iff]

theorem isAbsoluteUrl_archive_iff (hp : l.project.Usable) (h : l.archive suffix = .ok a) :
    isAbsoluteUrl a.href = true ↔ isAbsoluteUrl l.project.archiveBase = true := by
  obtain ⟨hsuffix, hhref⟩ := href_archive h
  have hbare : holdsSeparator (l.project.archiveFileName suffix) = false := by
    rw [hp.holdsSeparator_archiveFileName, hsuffix]
  have hfile := (holdsSeparator_eq_false_iff.1 hbare).1
  have hhead : (l.project.archiveFileName suffix).toList.head? ≠ some '/' :=
    fun hslash => hfile (List.mem_of_head? hslash)
  have hnone : ¬[':', '/', '/'] <:+: (l.project.archiveFileName suffix).toList :=
    fun hscheme => hfile (hscheme.subset (by decide))
  rw [isAbsoluteUrl_iff, hhref, Text.scheme_infix_join_iff l.project.getLast?_archiveBase hhead,
    ← isAbsoluteUrl_iff]
  exact or_iff_left hnone

end Links

namespace Project

/-- **The bases and the links of a valid configuration.** Each base has an authority exactly when
the URL that it is expanded from names a host that stays in place, whichever of the settings that
URL comes from. A link to an archive is absolute exactly when the archive base has an authority, and
a link below the project host when the host base has one or a `://` stands in the path, and only
then. -/
theorem base_absolute_iff {config : SiteConfig} (hvalid : config.validate = .ok ()) :
    (HasAuthority config.project.hostBase ↔
      config.project.KeepsAuthority config.project.hostBaseUrl) ∧
    (HasAuthority config.project.archiveBase ↔
      config.project.KeepsAuthority config.project.archiveBaseSource) ∧
    ∀ l : Links, l.project = config.project →
      (∀ path a, l.external path = .ok a →
        (isAbsoluteUrl a.href = true ↔
          HasAuthority config.project.hostBase ∨ isAbsoluteUrl path = true)) ∧
      ∀ suffix a, l.archive suffix = .ok a →
        (isAbsoluteUrl a.href = true ↔ HasAuthority config.project.archiveBase) := by
  have husable := fault?_eq_none_iff.1 (SiteConfig.validate_eq_ok_iff.1 hvalid).1
  refine ⟨hasAuthority_expand_iff husable, hasAuthority_expand_iff husable, ?_⟩
  rintro l hl
  rw [← hl] at husable ⊢
  refine ⟨fun path a h => ?_, fun suffix a h => ?_⟩
  · rw [Links.isAbsoluteUrl_external_iff h, hasAuthority_iff l.project.getLast?_hostBase]
  · rw [Links.isAbsoluteUrl_archive_iff husable h, hasAuthority_iff l.project.getLast?_archiveBase]

/-- A configuration with slashes behind the placeholder. -/
def trailingSlashes : SiteConfig where
  project := { hostBaseUrl := "https://example.org/\x7bproject\x7d//" }

theorem base_absolute_iff_trailingSlashes :
    trailingSlashes.validate = .ok () ∧ HasAuthority trailingSlashes.project.hostBase ∧
      HasAuthority trailingSlashes.project.archiveBase := by
  have hvalid : trailingSlashes.validate = .ok () := rfl
  obtain ⟨hhost, harchive, -⟩ := base_absolute_iff hvalid
  have hkeeps : trailingSlashes.project.KeepsAuthority trailingSlashes.project.hostBaseUrl :=
    .inl ⟨"example.org/\x7bproject\x7d//".toList, by decide, 'e', by decide, by decide⟩
  exact ⟨hvalid, hhost.2 hkeeps, harchive.2 hkeeps⟩

/-- A configuration whose host is a scheme and nothing else. -/
def schemeOnly : SiteConfig where
  project := { hostBaseUrl := "https://" }

/-- The base is what trimming leaves of the scheme. -/
example : schemeOnly.project.hostBase = "https:" ∧ schemeOnly.project.archiveBase = "https:" := by
  decide

/-- A valid configuration may have bases that are not absolute, and so may its links. -/
theorem not_every_base_is_absolute :
    ¬∀ config : SiteConfig, config.validate = .ok () →
      (HasAuthority config.project.hostBase ∧ HasAuthority config.project.archiveBase) ∧
      ∀ l : Links, l.project = config.project →
        (∀ path a, l.external path = .ok a → isAbsoluteUrl a.href = true) ∧
        ∀ suffix a, l.archive suffix = .ok a → isAbsoluteUrl a.href = true := by
  intro hall
  obtain ⟨⟨hhost, -⟩, -⟩ := hall schemeOnly rfl
  have habsolute : isAbsoluteUrl schemeOnly.project.hostBase = true :=
    (hasAuthority_iff schemeOnly.project.getLast?_hostBase).1 hhost
  exact absurd habsolute (by decide)

end Project

end StaticSite
