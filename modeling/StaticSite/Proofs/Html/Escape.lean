import StaticSite.Html.Escape

/-!
# What escaped text cannot hold

A tag begins and ends with an angle bracket, and the value of an attribute with a quote. These three
characters are the marks of a text. The marks of a page, in order, decide where a reader of HTML
sees tags and attribute values; escaped text has none of them, wherever it stands.

Nothing is lost by it. An ampersand is escaped as well, so where there is one, an entity begins that
escaping has put there, and reading the entities back gives the text.

## Main results

* `Html.marks_escape` — escaped text has no marks
* `Html.marks_join` — the marks of a composed text are those of its parts
* `Html.unescape_escape` — escaped text can be read back
-/

namespace StaticSite.Html

/-- A character that opens or closes a tag or the value of an attribute. -/
def isMark (c : Char) : Bool :=
  c == '<' || c == '>' || c == '"'

/-- The marks of a text, in order. -/
def marks (s : String) : List Char :=
  s.toList.filter isMark

theorem marks_append (a b : String) : marks (a ++ b) = marks a ++ marks b := by
  rw [marks, String.toList_append, List.filter_append]
  rfl

theorem marks_join (parts : List String) : marks (String.join parts) = parts.flatMap marks := by
  induction parts with
  | nil => rfl
  | cons s rest ih => rw [String.join_cons, marks_append, ih, List.flatMap_cons]

/-- An entity is written without marks, and every mark is written as an entity. -/
theorem isMark_of_mem_escapeChar {c d : Char} (h : d ∈ escapeChar c) : isMark d = false := by
  have hnone : (escapeChar c).all (fun e => !isMark e) = true := by
    unfold escapeChar
    split
    case h_5 hamp hlt hgt hquot =>
      rw [List.all_cons, List.all_nil, isMark, beq_false_of_ne hlt, beq_false_of_ne hgt,
        beq_false_of_ne hquot]
      rfl
    all_goals rfl
  simpa using List.all_eq_true.1 hnone d h

/-- **Escaped text has no marks.** -/
@[simp] theorem marks_escape (s : String) : marks (escape s) = [] := by
  rw [marks, escape, String.toList_ofList, List.filter_eq_nil_iff]
  intro d hd
  obtain ⟨c, -, hc⟩ := List.mem_flatMap.1 hd
  rw [isMark_of_mem_escapeChar hc]
  exact Bool.false_ne_true

theorem not_mem_escape {c : Char} (h : isMark c = true) (s : String) : c ∉ (escape s).toList := by
  intro hc
  have hmarks := marks_escape s
  rw [marks, List.filter_eq_nil_iff] at hmarks
  exact hmarks c hc h

@[simp] theorem lt_not_mem_escape (s : String) : '<' ∉ (escape s).toList := not_mem_escape rfl s

@[simp] theorem quot_not_mem_escape (s : String) : '"' ∉ (escape s).toList := not_mem_escape rfl s

/-! ### Reading back -/

/-- The text that escaped text stands for. -/
def unescape (s : String) : String :=
  String.ofList (unescapeChars s.toList)

/-- Only an ampersand can begin an entity. -/
theorem unescapeChars_cons_of_ne {c : Char} (h : c ≠ '&') (rest : List Char) :
    unescapeChars (c :: rest) = c :: unescapeChars rest := by
  rw [unescapeChars]
  all_goals exact fun _ hc _ => h hc

/-- What a character was written as is read as the character, whatever comes behind it. -/
theorem unescapeChars_escapeChar_append (c : Char) (rest : List Char) :
    unescapeChars (escapeChar c ++ rest) = c :: unescapeChars rest := by
  unfold escapeChar
  split
  case h_5 hamp hlt hgt hquot => exact unescapeChars_cons_of_ne hamp rest
  all_goals rfl

/-- **Escaped text can be read back.** -/
@[simp] theorem unescape_escape (s : String) : unescape (escape s) = s := by
  have hchars : ∀ cs : List Char, unescapeChars (cs.flatMap escapeChar) = cs := by
    intro cs
    induction cs with
    | nil => rfl
    | cons c rest ih => rw [List.flatMap_cons, unescapeChars_escapeChar_append, ih]
  rw [unescape, escape, String.toList_ofList, hchars, String.ofList_toList]

end StaticSite.Html
