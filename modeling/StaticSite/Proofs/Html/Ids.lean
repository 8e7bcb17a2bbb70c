import Mathlib.Data.List.DropRight
import Mathlib.Data.List.TakeWhile
import Mathlib.Tactic.MkIffOfInductiveProp
import StaticSite.Proofs.Anchor
import StaticSite.Proofs.Html.Tags
import StaticSite.Proofs.Text.Occurrence

/-!
# The ids in a text

An element has an id when its tag says so. There are two ways to look for an id: a reader asks the
tags for it, and a search looks for the attribute as it is written, wherever that may be. A search
can be misled by text that only looks like an attribute, so the two have to be kept track of
together.

## Why parts can be looked at alone

A reader starts anew behind a text that is whole. A search does not know about tags, and an attribute
might come about at the border of two parts, with its name in one of them and its value in the
other. But it has quotes and no brackets. So where quotes stand between brackets only, one part of
the attribute would have to reach over a bracket, and nothing comes about at a border.

`Html.Declares` is what is known of a part, and it holds of parts together when it holds of each.
What is escaped declares nothing, and neither does an anchor, whatever its address is: an attribute
in it would have both quotes in common with the address, and then the name in front of it, too.

## Main results

* `Html.Declares.append` — what two parts declare together
* `Html.declares_escape`, `Html.declares_openTag`, `Html.declares_wrap` — what declares nothing
-/

namespace StaticSite.Html

open Text (occurrences)

/-! ### Ids -/

/-- The id that a tag gives its element. -/
def Tag.id? : Tag → Option String
  | opening _ attributes => (attributes.lookup "id").map unescape
  | _ => none

/-- The ids of the elements of a text, in order. -/
def ids (html : String) : List String :=
  (pieces html).filterMap fun p => p.tag.id?

/-- The same without what stands between the tags. -/
def idsOf (cs : List Char) : List String :=
  (tags cs).filterMap Tag.id?

/-- How an id is written. -/
def idAttribute (id : String) : String :=
  String.join ["id=\"", id, "\""]

variable {known declared declared' : List String} {id : String} {a b cs : List Char}

theorem ids_eq (html : String) : ids html = idsOf html.toList := by
  rw [ids, idsOf, ← map_tag_pieces, List.filterMap_map]
  rfl

/-- Behind a whole text, the ids are those of what follows. -/
theorem Whole.idsOf_append (h : Whole a) (b : List Char) :
    idsOf (a ++ b) = idsOf a ++ idsOf b := by
  rw [idsOf, tags_append h, List.filterMap_append]
  rfl

/-- What is written piece by piece gives no id when none of its tags does. -/
theorem idsOf_of_pieces {written : List Piece} (hcs : cs = written.flatMap Piece.chars)
    (hproper : ∀ q ∈ written, q.Proper) (hid : ∀ q ∈ written, q.tag.id? = none) :
    Whole cs ∧ idsOf cs = [] := by
  obtain ⟨hwhole, htags⟩ := whole_of_pieces hcs hproper
  refine ⟨hwhole, ?_⟩
  rw [idsOf, htags, List.filterMap_map]
  exact List.filterMap_eq_nil_iff.2 hid

theorem toList_idAttribute (id : String) :
    (idAttribute id).toList = ['i', 'd', '=', '"'] ++ id.toList ++ ['"'] := by
  simp [idAttribute]

theorem quot_mem_idAttribute (id : String) : '"' ∈ (idAttribute id).toList := by
  rw [toList_idAttribute]
  exact List.mem_append_right _ (List.mem_singleton_self _)

theorem idAttribute_ne_nil (id : String) : (idAttribute id).toList ≠ [] :=
  List.ne_nil_of_mem (quot_mem_idAttribute id)

/-! ### Where quotes stand -/

/-- A character that neither opens nor closes a tag. -/
def isInner (c : Char) : Bool :=
  c != '<' && c != '>'

/-- No quote stands before the first bracket or behind the last one. -/
def QuotesInside (cs : List Char) : Prop :=
  '"' ∉ cs.takeWhile isInner ∧ '"' ∉ cs.rtakeWhile isInner

instance (cs : List Char) : Decidable (QuotesInside cs) :=
  inferInstanceAs (Decidable (_ ∧ _))

theorem quotesInside_of_not_mem (h : '"' ∉ cs) : QuotesInside cs :=
  ⟨fun hmem => h ((List.takeWhile_prefix _).subset hmem),
    fun hmem => h ((List.rtakeWhile_suffix _ _).subset hmem)⟩

/-- A text that begins and ends with a bracket. -/
theorem quotesInside_of_brackets (cs : List Char) : QuotesInside ('<' :: cs ++ ['>']) := by
  refine ⟨?_, ?_⟩
  · rw [List.cons_append, List.takeWhile_cons_of_neg (by decide)]
    exact List.not_mem_nil
  · rw [List.rtakeWhile_concat_neg _ _ _ (by decide)]
    exact List.not_mem_nil

theorem mem_takeWhile_append {c : Char} (h : c ∈ (a ++ b).takeWhile isInner) :
    c ∈ a.takeWhile isInner ∨ c ∈ b.takeWhile isInner := by
  rw [List.takeWhile_append] at h
  split at h
  next hall =>
    rw [(List.takeWhile_prefix isInner).eq_of_length hall]
    exact List.mem_append.1 h
  · exact .inl h

theorem QuotesInside.append (ha : QuotesInside a) (hb : QuotesInside b) :
    QuotesInside (a ++ b) := by
  refine ⟨fun h => (mem_takeWhile_append h).elim ha.1 hb.1, fun h => ?_⟩
  rw [List.rtakeWhile, List.reverse_append, List.mem_reverse] at h
  rcases mem_takeWhile_append h with h | h
  · exact hb.2 (List.mem_reverse.2 h)
  · exact ha.2 (List.mem_reverse.2 h)

/-- **What has quotes and no brackets does not come about at a border.** -/
theorem QuotesInside.not_straddles {needle : List Char} (ha : QuotesInside a) (hb : QuotesInside b)
    (hinner : needle.all isInner = true) (hquot : '"' ∈ needle) :
    ¬Text.Straddles needle a b := by
  rintro ⟨front, back, -, -, rfl, ⟨before, rfl⟩, ⟨behind, rfl⟩⟩
  obtain ⟨hfront, hback⟩ := List.forall_mem_append.1 (List.all_eq_true.1 hinner)
  rcases List.mem_append.1 hquot with hmem | hmem
  · refine ha.2 (List.mem_reverse.2 ?_)
    rw [List.reverse_append, List.takeWhile_append_of_pos fun c hc => hfront c (by simpa using hc)]
    exact List.mem_append_left _ (List.mem_reverse.2 hmem)
  · refine hb.1 ?_
    rw [List.takeWhile_append_of_pos hback]
    exact List.mem_append_left _ hmem

/-! ### What a text declares -/

/-- What is known of a text in which the elements have the ids `declared`: of the ids `known`, it
has those attributes that its elements have, and no other text that looks like one. -/
@[mk_iff]
structure Declares (known : List String) (cs : List Char) (declared : List String) : Prop where
  quotes : QuotesInside cs
  whole : Whole cs
  ids : idsOf cs = declared
  count : ∀ id ∈ known, occurrences (idAttribute id).toList cs = declared.count id

instance : Decidable (Declares known cs declared) :=
  decidable_of_iff _ (declares_iff known cs declared).symm

/-- A whole text without quotes whose elements have no ids. -/
def Quiet (cs : List Char) : Prop :=
  '"' ∉ cs ∧ Whole cs ∧ idsOf cs = []

instance (cs : List Char) : Decidable (Quiet cs) :=
  inferInstanceAs (Decidable (_ ∧ _ ∧ _))

/-- Where there are no quotes, there is no attribute. -/
theorem Quiet.declares (h : Quiet cs) (known : List String) : Declares known cs [] where
  quotes := quotesInside_of_not_mem h.1
  whole := h.2.1
  ids := h.2.2
  count id _ := Text.occurrences_of_not_mem (quot_mem_idAttribute id) h.1

/-- **What two parts declare together.** -/
theorem Declares.append (hknown : ∀ id ∈ known, id.toList.all isInner = true)
    (ha : Declares known a declared) (hb : Declares known b declared') :
    Declares known (a ++ b) (declared ++ declared') where
  quotes := ha.quotes.append hb.quotes
  whole := ha.whole.append hb.whole
  ids := by rw [ha.whole.idsOf_append, ha.ids, hb.ids]
  count id hid := by
    have hinner : (idAttribute id).toList.all isInner = true := by
      rw [toList_idAttribute, List.all_append, List.all_append, hknown id hid]
      rfl
    rw [Text.occurrences_append (idAttribute_ne_nil id)
      (ha.quotes.not_straddles hb.quotes hinner (quot_mem_idAttribute id)), ha.count id hid,
      hb.count id hid, List.count_append]

/-- Two parts with no attribute, and with the attribute when they are put together: the quote of the
second one stands before any bracket. -/
example : occurrences (idAttribute "a").toList ['<', 'p', ' ', 'i'] = 0 ∧
    occurrences (idAttribute "a").toList ['d', '=', '"', 'a', '"', '>'] = 0 ∧
    occurrences (idAttribute "a").toList
      (['<', 'p', ' ', 'i'] ++ ['d', '=', '"', 'a', '"', '>']) = 1 := by decide

/-- **Escaped text** declares nothing. -/
theorem declares_escape (known : List String) (s : String) :
    Declares known (escape s).toList [] := by
  obtain ⟨hwhole, htags⟩ := whole_of_lt_not_mem (lt_not_mem_escape s)
  have hquiet : Quiet (escape s).toList :=
    ⟨quot_not_mem_escape s, hwhole, by rw [idsOf, htags]; rfl⟩
  exact hquiet.declares known

/-- In a text with two quotes an attribute has its name in front of the first one. -/
theorem suffix_of_infix {key value before inside behind : List Char} (hbefore : '"' ∉ before)
    (hinside : '"' ∉ inside) (hbehind : '"' ∉ behind)
    (h : key ++ '"' :: value ++ ['"'] <:+: before ++ '"' :: inside ++ '"' :: behind) :
    key <:+ before := by
  obtain ⟨front, rest, hsplit⟩ := h
  have hcount := congrArg (List.count '"') hsplit
  simp only [List.count_append, List.count_cons_self, List.count_nil,
    List.count_eq_zero.2 hbefore, List.count_eq_zero.2 hinside, List.count_eq_zero.2 hbehind]
    at hcount
  have hfront : '"' ∉ front ++ key := by
    rw [← List.count_eq_zero, List.count_append]
    omega
  have hcut : (front ++ key) ++ '"' :: (value ++ ['"'] ++ rest) =
      before ++ '"' :: (inside ++ '"' :: behind) := by
    simpa using hsplit
  have hends : ∀ {cs : List Char}, '"' ∉ cs → ∀ c ∈ cs, (c != '"') = true :=
    fun hcs c hc => bne_iff_ne.2 (ne_of_mem_of_not_mem hc hcs)
  have hfirst := congrArg (List.takeWhile (· != '"')) hcut
  rw [List.takeWhile_append_of_pos (hends hfront), List.takeWhile_append_of_pos (hends hbefore)]
    at hfirst
  exact ⟨front, by simpa using hfirst⟩

/-- **The opening tag of a link** declares nothing, whatever its address is. -/
theorem declares_openTag (known : List String) (a : Anchor) :
    Declares known a.openTag.toList [] := by
  have hquotes : a.openTag.toList =
      "<a href=".toList ++ '"' :: (escape a.href).toList ++ '"' :: ['>'] := by
    simp [Anchor.openTag]
  have hbrackets : a.openTag.toList =
      '<' :: ("a href=\"".toList ++ (escape a.href).toList ++ ['"']) ++ ['>'] := by
    simp [Anchor.openTag]
  have hpieces : a.openTag.toList = [Anchor.openingPiece a.href].flatMap Piece.chars := by
    rw [a.toList_openTag, List.flatMap_singleton]
  obtain ⟨hwhole, hids⟩ := idsOf_of_pieces hpieces
    (List.forall_mem_singleton.2 (Anchor.proper_openingPiece _)) (List.forall_mem_singleton.2 rfl)
  refine ⟨?_, hwhole, hids, fun id _ => ?_⟩
  · rw [hbrackets]
    exact quotesInside_of_brackets _
  · refine Text.occurrences_eq_zero_iff.2 fun h => ?_
    rw [hquotes, toList_idAttribute] at h
    have hname : ['i', 'd', '='] <:+ "<a href=".toList :=
      suffix_of_infix (by decide) (quot_not_mem_escape _) (by decide) h
    exact absurd hname (by decide)

/-- **A link around a text** declares nothing. -/
theorem declares_wrap (known : List String)
    (hknown : ∀ id ∈ known, id.toList.all isInner = true) (a : Anchor) (text : String) :
    Declares known (a.wrap text).toList [] := by
  have hend : Quiet "</a>".toList := by decide
  rw [← a.openTag_append, String.toList_append, String.toList_append]
  exact ((declares_openTag known a).append hknown (declares_escape known text)).append hknown
    (hend.declares known)

end StaticSite.Html
