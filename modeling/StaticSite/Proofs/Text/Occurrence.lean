import Mathlib.Data.List.Infix
import StaticSite.Text.Search

/-!
# Counting occurrences

How often a text stands in another one, counted by the places where it begins. Where two texts are
put together, the occurrences are those of the first, those of the second, and those that straddle
the border, with one part at the end of the first text and the other at the start of the second.

## Main results

* `Text.occurrences_eq_zero_iff` — a text that does not stand anywhere
* `Text.occurrences_append` — without a straddling occurrence, the numbers add up
-/

namespace StaticSite.Text

variable {needle a b s : List Char}

/-- The number of places where `needle` begins in a list. -/
def occurrences (needle s : List Char) : Nat :=
  s.tails.countP needle.isPrefixOf

/-- A part of `needle` ends the first list, and the rest of it begins the second. -/
def Straddles (needle a b : List Char) : Prop :=
  ∃ front back, front ≠ [] ∧ back ≠ [] ∧ needle = front ++ back ∧ front <:+ a ∧ back <+: b

theorem occurrences_nil (hne : needle ≠ []) : occurrences needle [] = 0 := by
  have hend : needle.isPrefixOf [] = false := by
    rw [← Bool.not_eq_true, List.isPrefixOf_iff_prefix, List.prefix_nil]
    exact hne
  simp [occurrences, hend]

theorem occurrences_cons (needle : List Char) (c : Char) (s : List Char) :
    occurrences needle (c :: s) =
      occurrences needle s + if needle <+: c :: s then 1 else 0 := by
  simp only [occurrences, List.tails_cons, List.countP_cons, List.isPrefixOf_iff_prefix]

theorem occurrences_eq_zero_iff : occurrences needle s = 0 ↔ ¬needle <:+: s := by
  rw [occurrences, List.countP_eq_zero, List.infix_iff_prefix_suffix]
  simp only [List.mem_tails, List.isPrefixOf_iff_prefix, not_exists, not_and]
  exact forall_congr' fun t => imp_not_comm

/-- A text with a character that is missing elsewhere does not stand there. -/
theorem occurrences_of_not_mem {c : Char} (hneedle : c ∈ needle) (hs : c ∉ s) :
    occurrences needle s = 0 :=
  occurrences_eq_zero_iff.2 fun h => hs (h.subset hneedle)

/-- At a place in the first list, the second one counts only for what straddles the border. -/
theorem prefix_append_iff_of_not_straddles (ha : a ≠ []) (h : ¬Straddles needle a b) :
    needle <+: a ++ b ↔ needle <+: a := by
  refine ⟨fun hprefix => ?_, fun hprefix => hprefix.trans (List.prefix_append a b)⟩
  rcases List.prefix_or_prefix_of_prefix hprefix (List.prefix_append a b) with hin | ⟨back, hback⟩
  · exact hin
  · by_cases hnil : back = []
    · rw [← hback, hnil, List.append_nil]
    · rw [← hback, List.prefix_append_right_inj] at hprefix
      exact absurd ⟨a, back, ha, hnil, hback.symm, List.suffix_rfl, hprefix⟩ h

/-- **Where nothing straddles the border, the numbers add up.** -/
theorem occurrences_append (hne : needle ≠ []) (h : ¬Straddles needle a b) :
    occurrences needle (a ++ b) = occurrences needle a + occurrences needle b := by
  induction a with
  | nil => rw [List.nil_append, occurrences_nil hne, Nat.zero_add]
  | cons c rest ih =>
    have hrest : ¬Straddles needle rest b := by
      rintro ⟨front, back, hfront, hback, heq, hsuffix, hprefix⟩
      exact h ⟨front, back, hfront, hback, heq, hsuffix.trans (List.suffix_cons c rest), hprefix⟩
    have hhere := prefix_append_iff_of_not_straddles (List.cons_ne_nil c rest) h
    rw [List.cons_append] at hhere
    rw [List.cons_append, occurrences_cons, occurrences_cons, ih hrest]
    simp only [hhere]
    omega

end StaticSite.Text
