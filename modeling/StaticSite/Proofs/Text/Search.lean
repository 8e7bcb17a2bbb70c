import Mathlib.Data.List.DropRight
import StaticSite.Text.Search

/-!
# Occurrences, replacement and trimming

What the functions of `StaticSite.Text.Search` do, in terms of the prefixes, suffixes and infixes of
lists. Replacement is described by the two things that can stand at the front of a list: an
occurrence, which is replaced as a whole, or a character that begins none, which is kept. Every list
comes apart in this way (`Text.needle_induction`), and what follows about replacement is proved
along it.

## Main results

* `Text.occurs_iff` — a text occurs where it is an infix
* `Text.replaceAll_needle_append`, `Text.replaceAll_cons` — replacement from the front
* `Text.replaceAll_append_replicate` — replacement up to a run at the end
* `Text.exists_eq_dropTrailing_append`, `Text.dropTrailing_append`, `Text.dropTrailing_run` — what
  trimming takes away
-/

namespace StaticSite.Text

variable {needle replacement s t : List Char} {c : Char}

/-! ### Occurrences -/

theorem occurs_iff : occurs needle s = true ↔ needle <:+: s := by
  induction s with
  | nil => rw [occurs, List.isEmpty_iff, List.infix_nil]
  | cons c rest ih =>
    rw [occurs, Bool.or_eq_true, List.isPrefixOf_iff_prefix, ih, List.infix_cons_iff]

theorem hasText_iff {text part : String} :
    hasText text part = true ↔ part.toList <:+: text.toList :=
  occurs_iff

/-! ### Replacement -/

/-- The characters still to be passed over are dropped. -/
theorem replaceFrom_eq (needle replacement : List Char) (skip : Nat) (s : List Char) :
    replaceFrom needle replacement skip s = replaceAll needle replacement (s.drop skip) := by
  induction skip generalizing s with
  | zero => rw [List.drop_zero, replaceAll]
  | succ skip ih =>
    cases s with
    | nil => rw [List.drop_nil, replaceAll, replaceFrom, replaceFrom]
    | cons c rest => rw [replaceFrom, ih, List.drop_succ_cons]

@[simp] theorem replaceAll_nil (needle replacement : List Char) :
    replaceAll needle replacement [] = [] := by
  rw [replaceAll, replaceFrom]

/-- An occurrence at the front is replaced. -/
theorem replaceAll_needle_append (hne : needle ≠ []) (replacement s : List Char) :
    replaceAll needle replacement (needle ++ s) =
      replacement ++ replaceAll needle replacement s := by
  cases needle with
  | nil => exact absurd rfl hne
  | cons c rest =>
    have hprefix : (c :: rest).isPrefixOf (c :: (rest ++ s)) = true :=
      List.isPrefixOf_iff_prefix.2 (List.prefix_append (c :: rest) s)
    rw [replaceAll, List.cons_append, replaceFrom, if_pos hprefix, replaceFrom_eq,
      List.length_cons, Nat.add_sub_cancel, List.drop_left]

/-- A character at the front that begins no occurrence is kept. -/
theorem replaceAll_cons (h : ¬needle <+: c :: s) (replacement : List Char) :
    replaceAll needle replacement (c :: s) = c :: replaceAll needle replacement s := by
  have hprefix : ¬needle.isPrefixOf (c :: s) = true := fun h' => h (List.isPrefixOf_iff_prefix.1 h')
  rw [replaceAll, replaceFrom, if_neg hprefix, replaceAll]

/-- **Every list comes apart** into occurrences and characters that begin none. -/
theorem needle_induction (hne : needle ≠ []) {motive : List Char → Prop} (nil : motive [])
    (found : ∀ s, motive s → motive (needle ++ s))
    (other : ∀ c s, ¬needle <+: c :: s → motive s → motive (c :: s)) (s : List Char) :
    motive s := by
  induction hn : s.length using Nat.strongRecOn generalizing s with
  | ind n ih =>
    cases s with
    | nil => exact nil
    | cons c rest =>
      by_cases h : needle <+: c :: rest
      · obtain ⟨behind, hbehind⟩ := h
        rw [← hbehind]
        refine found behind (ih behind.length ?_ behind rfl)
        have hlength := congrArg List.length hbehind
        have hpos := List.length_pos_of_ne_nil hne
        rw [List.length_append, hn] at hlength
        omega
      · refine other c rest h (ih rest.length ?_ rest rfl)
        rw [← hn, List.length_cons]
        omega

/-- A character that is not in what is looked for stays at the end. -/
theorem replaceAll_concat (hne : needle ≠ []) (hc : c ∉ needle) (replacement s : List Char) :
    replaceAll needle replacement (s ++ [c]) = replaceAll needle replacement s ++ [c] := by
  have hend : ∀ l, needle <+: l ++ [c] → needle <+: l := by
    intro l h
    rcases List.prefix_concat_iff.1 h with heq | h
    · exact absurd (heq ▸ List.mem_append_right l (List.mem_singleton_self c)) hc
    · exact h
  induction s using needle_induction hne with
  | nil =>
    have hno : ¬needle <+: [c] := fun h => hne (List.prefix_nil.1 (hend [] h))
    rw [List.nil_append, replaceAll_cons hno, replaceAll_nil, List.nil_append]
  | found s ih =>
    rw [List.append_assoc, replaceAll_needle_append hne, ih, replaceAll_needle_append hne,
      List.append_assoc]
  | other d s hno ih =>
    have hno' : ¬needle <+: d :: (s ++ [c]) := fun h => hno (hend (d :: s) h)
    rw [List.cons_append, replaceAll_cons hno', ih, replaceAll_cons hno, List.cons_append]

/-- A run of such a character stays at the end. -/
theorem replaceAll_append_replicate (hne : needle ≠ []) (hc : c ∉ needle)
    (replacement s : List Char) (n : Nat) :
    replaceAll needle replacement (s ++ List.replicate n c) =
      replaceAll needle replacement s ++ List.replicate n c := by
  induction n with
  | zero => simp only [List.replicate_zero, List.append_nil]
  | succ n ih =>
    rw [List.replicate_succ', ← List.append_assoc, replaceAll_concat hne hc, ih, List.append_assoc]

/-! ### Trimming -/

theorem dropTrailing_eq (c : Char) (s : List Char) :
    dropTrailing c s = s.rdropWhile (· == c) := rfl

/-- What is taken away is a run of the character. -/
theorem exists_eq_dropTrailing_append (c : Char) (s : List Char) :
    ∃ n, s = dropTrailing c s ++ List.replicate n c := by
  have hrun : ∀ x ∈ s.rtakeWhile (· == c), x = c := by
    intro x hx
    exact beq_iff_eq.1 (List.mem_rtakeWhile_imp (p := (· == c)) hx)
  refine ⟨(s.rtakeWhile (· == c)).length, ?_⟩
  rw [← List.eq_replicate_iff.2 ⟨rfl, hrun⟩, dropTrailing_eq, List.rdropWhile_append_rtakeWhile]

/-- What is left does not end with the character. -/
theorem getLast?_dropTrailing (c : Char) (s : List Char) :
    (dropTrailing c s).getLast? ≠ some c := by
  intro h
  have hne : s.rdropWhile (· == c) ≠ [] := by
    intro hnil
    rw [dropTrailing_eq, hnil] at h
    cases h
  rw [dropTrailing_eq, List.getLast?_eq_some_getLast hne] at h
  exact List.rdropWhile_last_not _ _ hne (beq_iff_eq.2 (Option.some.inj h))

/-- A run of the character is taken away, down to where another character ends the list. -/
theorem dropTrailing_append_replicate (h : s.getLast? ≠ some c) (n : Nat) :
    dropTrailing c (s ++ List.replicate n c) = s := by
  induction n with
  | zero =>
    rw [List.replicate_zero, List.append_nil, dropTrailing_eq, List.rdropWhile_eq_self_iff]
    intro hne hlast
    rw [List.getLast?_eq_some_getLast hne, beq_iff_eq.1 hlast] at h
    exact h rfl
  | succ n ih =>
    rw [List.replicate_succ', ← List.append_assoc, dropTrailing_eq,
      List.rdropWhile_concat_pos (· == c) _ c (beq_self_eq_true c)]
    exact ih

/-- A longer run is taken away as well. -/
theorem dropTrailing_run (c : Char) (s : List Char) (n : Nat) :
    dropTrailing c (s ++ List.replicate n c) = dropTrailing c s := by
  obtain ⟨m, hm⟩ := exists_eq_dropTrailing_append c s
  calc dropTrailing c (s ++ List.replicate n c)
      = dropTrailing c (dropTrailing c s ++ List.replicate (m + n) c) := by
        rw [← List.replicate_append_replicate, ← List.append_assoc, ← hm]
    _ = dropTrailing c s := dropTrailing_append_replicate (getLast?_dropTrailing c s) (m + n)

/-- A list that does not end with the character is left as it is. -/
theorem dropTrailing_of_getLast? (h : s.getLast? ≠ some c) : dropTrailing c s = s := by
  have hnone := dropTrailing_append_replicate h 0
  rwa [List.replicate_zero, List.append_nil] at hnone

theorem dropTrailing_ne_nil (h : ∃ x ∈ s, x ≠ c) : dropTrailing c s ≠ [] := by
  obtain ⟨x, hx, hxc⟩ := h
  intro hnil
  obtain ⟨n, hn⟩ := exists_eq_dropTrailing_append c s
  rw [hn, hnil, List.nil_append] at hx
  exact hxc (List.eq_of_mem_replicate hx)

/-- Trimming does not reach beyond another character. -/
theorem dropTrailing_append (h : ∃ x ∈ t, x ≠ c) (s : List Char) :
    dropTrailing c (s ++ t) = s ++ dropTrailing c t := by
  have hlast : (s ++ dropTrailing c t).getLast? ≠ some c := by
    rw [List.getLast?_append_of_ne_nil _ (dropTrailing_ne_nil h)]
    exact getLast?_dropTrailing c t
  obtain ⟨n, hn⟩ := exists_eq_dropTrailing_append c t
  calc dropTrailing c (s ++ t)
      = dropTrailing c (s ++ dropTrailing c t ++ List.replicate n c) := by
        rw [List.append_assoc, ← hn]
    _ = s ++ dropTrailing c t := dropTrailing_append_replicate hlast n

end StaticSite.Text
