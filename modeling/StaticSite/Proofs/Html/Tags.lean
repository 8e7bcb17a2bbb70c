import Mathlib.Tactic.SplitIfs
import StaticSite.Proofs.Html.Reading

/-!
# The tags of a text, part by part

A reader that is between tags has nothing on its mind but the text in front of the next one. So when
a text ends between tags, the tags of what follows do not depend on it: the tags of both together
are the tags of the one and then those of the other. Such a text is called whole.

What stands in front of a tag is part of the piece that the reader makes, and it may begin long
before the part in which the tag is. Tags alone do not have this trouble, so here they are read
without it: `Html.Place.tags` is the reader of `Html.pieces` with everything left out that does not
reach a tag.

## Main results

* `Html.map_tag_pieces` — the tags that a reader finds
* `Html.tags_append` — behind a whole text, reading starts anew
* `Html.whole_of_lt_not_mem` — text without a tag
* `Html.whole_of_pieces` — what is written piece by piece
-/

namespace StaticSite.Html

/-! ### Reading tags only -/

namespace Place

/-- Where characters lead. -/
def after (p : Place) (cs : List Char) : Place :=
  cs.foldl (fun p c => (p.next c).1) p

/-- The tags that end while characters are read. -/
def tags : Place → List Char → List Tag
  | _, [] => []
  | p, c :: rest => ((p.next c).2.map Piece.tag).toList ++ (p.next c).1.tags rest

/-- Whether the place is between tags. -/
def isText : Place → Bool
  | text _ => true
  | _ => false

/-- The place without the text in front of the tag. -/
def bare : Place → Place
  | text _ => text []
  | bracket _ => bracket ""
  | closing _ held => closing "" held
  | declaration _ held => declaration "" held
  | name _ held => name "" held
  | gap b => gap { b with front := "" }
  | key b held => key { b with front := "" } held
  | equals b k => equals { b with front := "" } k
  | value b k held => value { b with front := "" } k held

variable {p q : Place} {a b cs : List Char}

theorem after_append (p : Place) (a b : List Char) : p.after (a ++ b) = (p.after a).after b :=
  List.foldl_append

theorem tags_append (p : Place) (a b : List Char) :
    p.tags (a ++ b) = p.tags a ++ (p.after a).tags b := by
  induction a generalizing p with
  | nil => rfl
  | cons c rest ih => rw [List.cons_append, tags, tags, ih, List.append_assoc]; rfl

/-- One character does the same to a place and to the bare place. -/
theorem next_bare (p : Place) (c : Char) :
    (p.bare.next c).1.bare = (p.next c).1.bare ∧
      (p.bare.next c).2.map Piece.tag = (p.next c).2.map Piece.tag := by
  cases p <;> simp only [bare, next] <;> split_ifs <;> exact ⟨rfl, rfl⟩

/-- **The text in front of a tag does not matter**: it changes neither the tags nor, itself apart,
the place that is reached. -/
theorem of_bare_eq (h : p.bare = q.bare) (cs : List Char) :
    (p.after cs).bare = (q.after cs).bare ∧ p.tags cs = q.tags cs := by
  induction cs generalizing p q with
  | nil => exact ⟨h, rfl⟩
  | cons c rest ih =>
    obtain ⟨hplace, htag⟩ := p.next_bare c
    obtain ⟨hplace', htag'⟩ := q.next_bare c
    rw [h] at hplace htag
    obtain ⟨hafter, htags⟩ := ih (hplace.symm.trans hplace')
    exact ⟨hafter, by rw [tags, tags, htags, ← htag, htag']⟩

theorem isText_iff : p.isText = true ↔ p.bare = text [] := by
  cases p <;> simp [isText, bare]

end Place

/-- The tags of a text. -/
def tags (cs : List Char) : List Tag :=
  (Place.text []).tags cs

/-- The reader keeps the tags that end, and goes where the characters lead. -/
theorem Reader.feed_eq (r : Reader) (cs : List Char) :
    (r.feed cs).place = r.place.after cs ∧
      (r.feed cs).pieces.map Piece.tag = r.pieces.map Piece.tag ++ r.place.tags cs := by
  induction cs generalizing r with
  | nil => exact ⟨rfl, (List.append_nil _).symm⟩
  | cons c rest ih =>
    obtain ⟨hplace, htags⟩ := ih (r.read c)
    refine ⟨hplace, ?_⟩
    rw [Reader.feed_cons, htags, Place.tags, Reader.read]
    simp only [List.map_append, List.append_assoc]
    cases (r.place.next c).2 <;> rfl

/-- **The tags that a reader finds.** -/
theorem map_tag_pieces (html : String) : (pieces html).map Piece.tag = tags html.toList :=
  (Reader.feed_eq {} html.toList).2

/-! ### Whole texts -/

/-- Reading the text leads from between tags to between tags. -/
def Whole (cs : List Char) : Prop :=
  ((Place.text []).after cs).isText = true

instance (cs : List Char) : Decidable (Whole cs) :=
  inferInstanceAs (Decidable (_ = _))

variable {a b cs : List Char}

theorem Whole.bare_after (h : Whole a) : ((Place.text []).after a).bare = (Place.text []).bare :=
  Place.isText_iff.1 h

/-- **Behind a whole text, reading starts anew.** -/
theorem tags_append (h : Whole a) (b : List Char) : tags (a ++ b) = tags a ++ tags b := by
  rw [tags, Place.tags_append, (Place.of_bare_eq h.bare_after b).2]
  rfl

theorem Whole.append (ha : Whole a) (hb : Whole b) : Whole (a ++ b) := by
  rw [Whole, Place.isText_iff, Place.after_append, (Place.of_bare_eq ha.bare_after b).1]
  exact hb.bare_after

/-- **Text without a tag** is whole. -/
theorem whole_of_lt_not_mem (h : '<' ∉ cs) : Whole cs ∧ tags cs = [] := by
  have hfeed : Reader.feed {} cs = ⟨.text cs, []⟩ :=
    Reader.feed_held .text (fun held c hc => if_neg (ne_of_mem_of_not_mem hc h)) []
  obtain ⟨hplace, htags⟩ := Reader.feed_eq {} cs
  rw [hfeed] at hplace htags
  exact ⟨by rw [Whole, ← hplace]; rfl, htags.symm⟩

/-- **What is written piece by piece** is whole, and its tags are those of the pieces. -/
theorem whole_of_pieces {written : List Piece} (hcs : cs = written.flatMap Piece.chars)
    (h : ∀ p ∈ written, p.Proper) : Whole cs ∧ tags cs = written.map Piece.tag := by
  obtain ⟨hplace, htags⟩ := Reader.feed_eq {} cs
  rw [hcs, Reader.feed_pieces h] at hplace htags
  rw [hcs]
  exact ⟨by rw [Whole, ← hplace]; rfl, htags.symm⟩

end StaticSite.Html
