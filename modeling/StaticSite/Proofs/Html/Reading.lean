import StaticSite.Proofs.Html.Escape

/-!
# Reading HTML

A reader of HTML goes through a text once, character by character, and takes it apart into pieces: a
tag, with what stands in front of it. All it knows is where it is, between tags or in some part of
one, and it does not look ahead. Values of attributes stand between double quotes.

## Everything as it is written

A piece keeps its texts and the values of its attributes as they are written, with their entities.
So a reader gives back what was written without any condition on entities, and reading them is the
last thing that is done, when an element is asked for its text or for an attribute.

## Reading in parts

What comes later does not change the pieces that are there: `Html.prefix_pieces_append`. So the
beginning of a text can be read without the rest.

## Main results

* `Html.Reader.feed_piece` — a piece is read as it was written
* `Html.pieces_of_toList_eq` — a text is read as it was written
* `Html.prefix_pieces_append` — the beginning of a text is read without the rest
* `Html.elements_append`, `Html.upTo_append` — where an element is found, and where it ends
-/

namespace StaticSite.Html

/-! ### Pieces -/

/-- A tag, with the values of its attributes as they are written. -/
inductive Tag
  | opening (name : String) (attributes : List (String × String))
  | closing (name : String)
  /-- A tag such as the one of the document type. -/
  | declaration (text : String)
deriving DecidableEq, Repr

/-- A tag, and what stands between it and the tag before, as it is written. -/
structure Piece where
  front : String := ""
  tag : Tag
deriving DecidableEq, Repr

/-- How an attribute is written. -/
def attributeChars (a : String × String) : List Char :=
  ' ' :: a.1.toList ++ '=' :: '"' :: a.2.toList ++ ['"']

/-- How a tag is written. -/
def Tag.chars : Tag → List Char
  | opening name attributes => '<' :: name.toList ++ attributes.flatMap attributeChars ++ ['>']
  | closing name => '<' :: '/' :: name.toList ++ ['>']
  | declaration text => '<' :: '!' :: text.toList ++ ['>']

/-- How a piece is written. -/
def Piece.chars (p : Piece) : List Char :=
  p.front.toList ++ p.tag.chars

/-- A text that may be the name of a tag or of an attribute. -/
def IsName (s : String) : Prop :=
  s ≠ "" ∧ ∀ c ∈ s.toList, (c.isAlphanum || c == '-') = true

/-- Names are names, and no value ends before its quote. -/
def Tag.Proper : Tag → Prop
  | opening name attributes =>
    IsName name ∧ ∀ a ∈ attributes, IsName a.1 ∧ '"' ∉ a.2.toList
  | closing name => IsName name
  | declaration text => '>' ∉ text.toList

/-- A piece that is found again where it was written. -/
def Piece.Proper (p : Piece) : Prop :=
  '<' ∉ p.front.toList ∧ p.tag.Proper

/-! ### The reader -/

/-- A tag whose attributes are being read. -/
structure Begun where
  front : String
  name : String
  attributes : List (String × String) := []

/-- The tag with one more attribute. -/
def Begun.add (b : Begun) (key value : String) : Begun :=
  { b with attributes := b.attributes ++ [(key, value)] }

/-- The piece that the tag makes when it ends here. -/
def Begun.piece (b : Begun) : Piece :=
  ⟨b.front, .opening b.name b.attributes⟩

/-- Where a reader is, with what it has read since it came there. -/
inductive Place
  /-- Between tags. -/
  | text (held : List Char)
  /-- Behind the bracket that opens a tag. -/
  | bracket (front : String)
  | closing (front : String) (held : List Char)
  | declaration (front : String) (held : List Char)
  | name (front : String) (held : List Char)
  /-- Between attributes. -/
  | gap (b : Begun)
  | key (b : Begun) (held : List Char)
  /-- Between the name of an attribute and the quote in front of its value. -/
  | equals (b : Begun) (key : String)
  | value (b : Begun) (key : String) (held : List Char)

/-- Where a character leads, and the piece that it completes. An attribute without a value has the
empty one. -/
def Place.next : Place → Char → Place × Option Piece
  | text held, c =>
    if c = '<' then (bracket (.ofList held), none) else (text (held ++ [c]), none)
  | bracket front, c =>
    if c = '/' then (closing front [], none)
    else if c = '!' then (declaration front [], none)
    else (name front [c], none)
  | closing front held, c =>
    if c = '>' then (text [], some ⟨front, .closing (.ofList held)⟩)
    else (closing front (held ++ [c]), none)
  | declaration front held, c =>
    if c = '>' then (text [], some ⟨front, .declaration (.ofList held)⟩)
    else (declaration front (held ++ [c]), none)
  | name front held, c =>
    if c = '>' then (text [], some ⟨front, .opening (.ofList held) []⟩)
    else if c = ' ' then (gap ⟨front, .ofList held, []⟩, none)
    else (name front (held ++ [c]), none)
  | gap b, c =>
    if c = '>' then (text [], some b.piece)
    else if c = ' ' then (gap b, none)
    else (key b [c], none)
  | key b held, c =>
    if c = '=' then (equals b (.ofList held), none)
    else if c = '>' then (text [], some (b.add (.ofList held) "").piece)
    else if c = ' ' then (gap (b.add (.ofList held) ""), none)
    else (key b (held ++ [c]), none)
  | equals b k, c =>
    if c = '"' then (value b k [], none) else (equals b k, none)
  | value b k held, c =>
    if c = '"' then (gap (b.add k (.ofList held)), none) else (value b k (held ++ [c]), none)

/-- A reader, with the pieces that it has completed. -/
structure Reader where
  place : Place := .text []
  pieces : List Piece := []

namespace Reader

/-- Read one character. -/
def read (r : Reader) (c : Char) : Reader where
  place := (r.place.next c).1
  pieces := r.pieces ++ (r.place.next c).2.toList

/-- Read characters in order. -/
def feed (r : Reader) (cs : List Char) : Reader :=
  cs.foldl read r

end Reader

/-- The pieces of a text. What stands behind the last tag is no piece. -/
def pieces (html : String) : List Piece :=
  (Reader.feed {} html.toList).pieces

/-! ### Reading what was written -/

theorem IsName.ne {s : String} (h : IsName s) {c d : Char} (hc : c ∈ s.toList)
    (hd : (d.isAlphanum || d == '-') = false) : c ≠ d := by
  rintro rfl
  rw [h.2 c hc] at hd
  cases hd

theorem IsName.toList_ne_nil {s : String} (h : IsName s) : s.toList ≠ [] :=
  fun hs => h.1 (String.toList_eq_nil_iff.1 hs)

namespace Reader

variable {r : Reader} {ps : List Piece} {cs : List Char} {b : Begun} {front : String}
  {rest : List Char}

theorem feed_append (r : Reader) (cs cs' : List Char) : r.feed (cs ++ cs') = (r.feed cs).feed cs' :=
  List.foldl_append

theorem feed_cons (r : Reader) (c : Char) (cs : List Char) :
    r.feed (c :: cs) = (r.read c).feed cs := rfl

/-- Pieces that are there stay where they are. -/
theorem prefix_feed (r : Reader) (cs : List Char) : r.pieces <+: (r.feed cs).pieces := by
  induction cs generalizing r with
  | nil => exact List.prefix_rfl
  | cons c rest ih => exact (List.prefix_append _ _).trans (ih (r.read c))

/-- A character that completes nothing. -/
theorem feed_cons_of_next {place place' : Place} {c : Char} (h : place.next c = (place', none))
    (cs : List Char) : feed ⟨place, ps⟩ (c :: cs) = feed ⟨place', ps⟩ cs := by
  rw [feed_cons, read, h]
  exact congrArg (fun ps' => feed ⟨place', ps'⟩ cs) (List.append_nil ps)

/-- **Where nothing ends**, everything that is read is held. -/
theorem feed_held (place : List Char → Place)
    (h : ∀ held, ∀ c ∈ cs, (place held).next c = (place (held ++ [c]), none)) (held : List Char) :
    feed ⟨place held, ps⟩ cs = ⟨place (held ++ cs), ps⟩ := by
  induction cs generalizing held with
  | nil => rw [List.append_nil]; rfl
  | cons c rest ih =>
    rw [feed_cons_of_next (h held c List.mem_cons_self),
      ih (fun held d hd => h held d (List.mem_cons_of_mem _ hd)), List.append_assoc]
    rfl

/-- What is held begins with the first character. -/
theorem feed_begun {start : Place} (place : List Char → Place)
    (hfirst : ∀ c ∈ cs, start.next c = (place [c], none))
    (h : ∀ held, ∀ c ∈ cs, (place held).next c = (place (held ++ [c]), none)) (hcs : cs ≠ []) :
    feed ⟨start, ps⟩ cs = ⟨place cs, ps⟩ := by
  cases cs with
  | nil => exact absurd rfl hcs
  | cons c rest =>
    rw [feed_cons_of_next (hfirst c List.mem_cons_self),
      feed_held place fun held d hd => h held d (List.mem_cons_of_mem _ hd)]
    rfl

/-- The text in front of a tag. -/
theorem feed_front (h : '<' ∉ front.toList) (rest : List Char) :
    feed ⟨.text [], ps⟩ (front.toList ++ '<' :: rest) = feed ⟨.bracket front, ps⟩ rest := by
  rw [feed_append, feed_held .text fun held c hc => if_neg (ne_of_mem_of_not_mem hc h)]
  simp [feed_cons, read, Place.next]

/-- A tag that closes. -/
theorem feed_closing {name : String} (h : IsName name) (rest : List Char) :
    feed ⟨.bracket front, ps⟩ ('/' :: (name.toList ++ '>' :: rest)) =
      feed ⟨.text [], ps ++ [⟨front, .closing name⟩]⟩ rest := by
  have hslash : feed ⟨.bracket front, ps⟩ ('/' :: (name.toList ++ '>' :: rest)) =
      feed ⟨.closing front [], ps⟩ (name.toList ++ '>' :: rest) := by
    simp [feed_cons, read, Place.next]
  rw [hslash, feed_append, feed_held (.closing front) fun held c hc => if_neg (h.ne hc rfl)]
  simp [feed_cons, read, Place.next]

theorem feed_declaration {text : String} (h : '>' ∉ text.toList) (rest : List Char) :
    feed ⟨.bracket front, ps⟩ ('!' :: (text.toList ++ '>' :: rest)) =
      feed ⟨.text [], ps ++ [⟨front, .declaration text⟩]⟩ rest := by
  have hmark : feed ⟨.bracket front, ps⟩ ('!' :: (text.toList ++ '>' :: rest)) =
      feed ⟨.declaration front [], ps⟩ (text.toList ++ '>' :: rest) := by
    simp [feed_cons, read, Place.next]
  rw [hmark, feed_append, feed_held (.declaration front) fun held c hc =>
    if_neg (ne_of_mem_of_not_mem hc h)]
  simp [feed_cons, read, Place.next]

/-- The name of a tag that opens. Its first letter tells it from the other tags. -/
theorem feed_name {name : String} (h : IsName name) (rest : List Char) :
    feed ⟨.bracket front, ps⟩ (name.toList ++ rest) =
      feed ⟨.name front name.toList, ps⟩ rest := by
  have hname : feed ⟨.bracket front, ps⟩ name.toList = ⟨.name front name.toList, ps⟩ := by
    refine feed_begun (.name front) (fun c hc => ?_) (fun held c hc => ?_) h.toList_ne_nil
    · exact (if_neg (h.ne hc rfl)).trans (if_neg (h.ne hc rfl))
    · exact (if_neg (h.ne hc rfl)).trans (if_neg (h.ne hc rfl))
  rw [feed_append, hname]

/-- An attribute between two others. -/
theorem feed_attribute {a : String × String} (hkey : IsName a.1) (hvalue : '"' ∉ a.2.toList)
    (rest : List Char) :
    feed ⟨.gap b, ps⟩ (attributeChars a ++ rest) = feed ⟨.gap (b.add a.1 a.2), ps⟩ rest := by
  have hspace : feed ⟨.gap b, ps⟩ (attributeChars a ++ rest) =
      feed ⟨.gap b, ps⟩ (a.1.toList ++ '=' :: '"' :: (a.2.toList ++ '"' :: rest)) := by
    simp [attributeChars, feed_cons, read, Place.next]
  have hequals : feed ⟨.key b a.1.toList, ps⟩ ('=' :: '"' :: (a.2.toList ++ '"' :: rest)) =
      feed ⟨.value b a.1 [], ps⟩ (a.2.toList ++ '"' :: rest) := by
    simp [feed_cons, read, Place.next]
  have hkeys : feed ⟨.gap b, ps⟩ a.1.toList = ⟨.key b a.1.toList, ps⟩ := by
    refine feed_begun (.key b) (fun c hc => ?_) (fun held c hc => ?_) hkey.toList_ne_nil
    · exact (if_neg (hkey.ne hc rfl)).trans (if_neg (hkey.ne hc rfl))
    · exact (if_neg (hkey.ne hc rfl)).trans
        ((if_neg (hkey.ne hc rfl)).trans (if_neg (hkey.ne hc rfl)))
  rw [hspace, feed_append, hkeys, hequals, feed_append,
    feed_held (.value b a.1) fun held c hc => if_neg (ne_of_mem_of_not_mem hc hvalue)]
  simp [feed_cons, read, Place.next]

/-- The attributes of a tag, and its end. -/
theorem feed_attributes {attributes : List (String × String)}
    (h : ∀ a ∈ attributes, IsName a.1 ∧ '"' ∉ a.2.toList) (rest : List Char) :
    feed ⟨.gap b, ps⟩ (attributes.flatMap attributeChars ++ '>' :: rest) =
      feed ⟨.text [], ps ++ [⟨b.front, .opening b.name (b.attributes ++ attributes)⟩]⟩ rest := by
  induction attributes generalizing b with
  | nil => simp [feed_cons, read, Place.next, Begun.piece]
  | cons a attributes ih =>
    obtain ⟨⟨hkey, hvalue⟩, hrest⟩ := List.forall_mem_cons.1 h
    rw [List.flatMap_cons, List.append_assoc, feed_attribute hkey hvalue, ih hrest, Begun.add,
      List.append_assoc]
    rfl

/-- Behind its name a tag goes on as between two attributes. -/
theorem feed_name_attributes {name : String} {attributes : List (String × String)}
    (rest : List Char) :
    feed ⟨.name front name.toList, ps⟩ (attributes.flatMap attributeChars ++ '>' :: rest) =
      feed ⟨.gap ⟨front, name, []⟩, ps⟩ (attributes.flatMap attributeChars ++ '>' :: rest) := by
  cases attributes with
  | nil => simp [feed_cons, read, Place.next, Begun.piece]
  | cons a attributes => simp [attributeChars, feed_cons, read, Place.next]

/-- **A piece is read as it was written**, whatever comes behind it. -/
theorem feed_piece {p : Piece} (h : p.Proper) (rest : List Char) :
    feed ⟨.text [], ps⟩ (p.chars ++ rest) = feed ⟨.text [], ps ++ [p]⟩ rest := by
  obtain ⟨front, tag⟩ := p
  obtain ⟨hfront, htag⟩ := h
  cases tag with
  | opening name attributes =>
    obtain ⟨hname, hattributes⟩ := htag
    have hchars : Piece.chars ⟨front, .opening name attributes⟩ ++ rest = front.toList ++ '<' ::
        (name.toList ++ (attributes.flatMap attributeChars ++ '>' :: rest)) := by
      simp [Piece.chars, Tag.chars]
    rw [hchars, feed_front hfront, feed_name hname, feed_name_attributes,
      feed_attributes hattributes]
    rfl
  | closing name =>
    have hchars : Piece.chars ⟨front, .closing name⟩ ++ rest =
        front.toList ++ '<' :: '/' :: (name.toList ++ '>' :: rest) := by
      simp [Piece.chars, Tag.chars]
    rw [hchars, feed_front hfront, feed_closing htag]
  | declaration text =>
    have hchars : Piece.chars ⟨front, .declaration text⟩ ++ rest =
        front.toList ++ '<' :: '!' :: (text.toList ++ '>' :: rest) := by
      simp [Piece.chars, Tag.chars]
    rw [hchars, feed_front hfront, feed_declaration htag]

/-- **Pieces are read as they were written.** -/
theorem feed_pieces {written : List Piece} (h : ∀ p ∈ written, p.Proper) :
    feed ⟨.text [], ps⟩ (written.flatMap Piece.chars) = ⟨.text [], ps ++ written⟩ := by
  induction written generalizing ps with
  | nil => rw [List.append_nil]; rfl
  | cons p rest ih =>
    obtain ⟨hp, hrest⟩ := List.forall_mem_cons.1 h
    rw [List.flatMap_cons, feed_piece hp, ih hrest, List.append_assoc]
    rfl

end Reader

/-- **What is written is read.** -/
theorem pieces_of_toList_eq {html : String} {written : List Piece}
    (hhtml : html.toList = written.flatMap Piece.chars) (h : ∀ p ∈ written, p.Proper) :
    pieces html = written := by
  rw [pieces, hhtml, Reader.feed_pieces h]
  rfl

/-- What comes later does not change the pieces that are there. -/
theorem prefix_pieces_append (html rest : String) : pieces html <+: pieces (html ++ rest) := by
  rw [pieces, pieces, String.toList_append, Reader.feed_append]
  exact Reader.prefix_feed _ _

/-! ### Elements -/

/-- The attributes of a tag that opens a name. -/
def Tag.opening? (name : String) : Tag → Option (List (String × String))
  | opening name' attributes => if name' = name then some attributes else none
  | _ => none

/-- An element, with the pieces inside it, the one that ends it with them. -/
structure Element where
  attributes : List (String × String)
  inside : List Piece
deriving DecidableEq, Repr

/-- The pieces up to the tag that closes a name. -/
def upTo (name : String) : List Piece → List Piece
  | [] => []
  | p :: rest => if p.tag = .closing name then [p] else p :: upTo name rest

/-- The elements with a name, in the order of their tags. An element ends at the first tag that
closes its name. -/
def elements (name : String) : List Piece → List Element
  | [] => []
  | p :: rest =>
    match p.tag.opening? name with
    | some attributes => ⟨attributes, upTo name rest⟩ :: elements name rest
    | none => elements name rest

namespace Element

/-- The value of an attribute. -/
def attribute? (e : Element) (key : String) : Option String :=
  (e.attributes.lookup key).map unescape

/-- The text inside an element. -/
def text (e : Element) : String :=
  String.join (e.inside.map fun p => unescape p.front)

end Element

variable {name : String} {ps rest : List Piece} {p : Piece}

/-- An element ends at the first tag that closes it. -/
theorem upTo_append (h : ∀ q ∈ ps, q.tag ≠ .closing name) (hp : p.tag = .closing name) :
    upTo name (ps ++ p :: rest) = ps ++ [p] := by
  induction ps with
  | nil => exact if_pos hp
  | cons q ps ih =>
    obtain ⟨hq, hps⟩ := List.forall_mem_cons.1 h
    rw [List.cons_append, upTo, if_neg hq, ih hps]
    rfl

theorem elements_cons_of_opening {attributes : List (String × String)}
    (h : p.tag.opening? name = some attributes) :
    elements name (p :: rest) = ⟨attributes, upTo name rest⟩ :: elements name rest := by
  rw [elements, h]

/-- Pieces that open no element are passed over. -/
theorem elements_append (h : ∀ q ∈ ps, q.tag.opening? name = none) (rest : List Piece) :
    elements name (ps ++ rest) = elements name rest := by
  induction ps with
  | nil => rfl
  | cons q ps ih =>
    obtain ⟨hq, hps⟩ := List.forall_mem_cons.1 h
    rw [List.cons_append, elements, hq, ih hps]

end StaticSite.Html
