import StaticSite.Text.Lines

/-!
# The letters of literal texts

A text is kept as bytes, and its characters are decoded from them one after another. For a literal
this work can be spared: it is by definition the text of its characters, so they can be read off it.
`Spelled` does this for a list of literals, and what holds of the characters can then be decided on
them alone.
-/

namespace StaticSite.Text

/-- Texts with their characters. -/
inductive Spelled : List String → List (List Char) → Prop
  | nil : Spelled [] []
  | cons {letters : List Char} {texts : List String} {rest : List (List Char)} :
    Spelled texts rest → Spelled (String.ofList letters :: texts) (letters :: rest)

variable {texts lines : List String} {letters : List (List Char)}

theorem Spelled.map_toList (h : Spelled texts letters) : texts.map String.toList = letters := by
  induction h with
  | nil => rfl
  | cons _ ih => rw [List.map_cons, String.toList_ofList, ih]

/-- The characters of lines, with a line end after each. -/
theorem toList_unlines (lines : List String) :
    (unlines lines).toList = (lines.map String.toList).flatMap (· ++ ['\n']) := by
  induction lines with
  | nil => rfl
  | cons line rest ih =>
    rw [unlines] at ih
    rw [unlines, List.map_cons, String.join_cons, String.toList_append, String.toList_push, ih,
      List.map_cons, List.flatMap_cons]

end StaticSite.Text
