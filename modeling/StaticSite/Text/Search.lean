/-!
# Searching and cutting text

Occurrence tests, replacement and trimming on lists of characters, with the versions on `String`
that the rest of the library uses. Replacement is left to right and does not look again at what it
has put in.
-/

namespace StaticSite.Text

/-- Whether `needle` occurs somewhere in the list. -/
def occurs (needle : List Char) : List Char → Bool
  | [] => needle.isEmpty
  | c :: rest => needle.isPrefixOf (c :: rest) || occurs needle rest

/-- The rest of the list after the first place where `needle` occurs. -/
def afterFirst? (needle : List Char) : List Char → Option (List Char)
  | [] => if needle = [] then some [] else none
  | c :: rest =>
    if needle.isPrefixOf (c :: rest) then some ((c :: rest).drop needle.length)
    else afterFirst? needle rest

/-- The parts of the list between the places where `c` stands; there is always at least one. -/
def splitAt (c : Char) : List Char → List (List Char)
  | [] => [[]]
  | x :: rest =>
    if x = c then [] :: splitAt c rest
    else
      match splitAt c rest with
      | [] => [[x]]
      | part :: parts => (x :: part) :: parts

/-- Replacement with `skip` characters of the last occurrence still to be passed over. -/
def replaceFrom (needle replacement : List Char) : Nat → List Char → List Char
  | _, [] => []
  | skip + 1, _ :: rest => replaceFrom needle replacement skip rest
  | 0, c :: rest =>
    if needle.isPrefixOf (c :: rest) then
      replacement ++ replaceFrom needle replacement (needle.length - 1) rest
    else
      c :: replaceFrom needle replacement 0 rest

/-- Replace every occurrence of a non-empty `needle`, from left to right. -/
def replaceAll (needle replacement : List Char) (s : List Char) : List Char :=
  replaceFrom needle replacement 0 s

/-- The list without the run of `c` at its end. -/
def dropTrailing (c : Char) (s : List Char) : List Char :=
  (s.reverse.dropWhile (· == c)).reverse

/-- Whether the text holds the character. -/
def hasChar (s : String) (c : Char) : Bool :=
  s.toList.contains c

/-- Whether the text holds `needle` as a contiguous part. -/
def hasText (s needle : String) : Bool :=
  occurs needle.toList s.toList

/-- The text without the slashes at its start. -/
def dropLeadingSlashes (s : String) : String :=
  String.ofList (s.toList.dropWhile (· == '/'))

/-- The text without the slashes at its end. -/
def dropTrailingSlashes (s : String) : String :=
  String.ofList (dropTrailing '/' s.toList)

end StaticSite.Text
