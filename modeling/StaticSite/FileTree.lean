import StaticSite.Text.Search

/-!
# File trees

A file system as a value: which directories and files there are, and what the files hold. Programs
that read and write files are functions on trees, so what they leave behind can be stated.

## Paths

A path is walked step by step from the top of the tree. Every step but the last has to lead into a
directory that exists, `..` leads back up (the top is its own parent), and a slash at the end asks
for a directory. Where a walk fails, the error is the one of the first step that cannot be taken.
A path that is too long as a whole is refused before the first step, as is one that holds a NUL.

## Failures

The messages are the ones an operating system gives, with its numbers.

## Limits

There are no links in a tree, so different names are different files. Nobody else changes the tree
while a program runs, no right to read or write is ever missing, and a disk is never full. A write
that fails is taken to leave the file as it was. Where a write can fail half way this is not so: the
file is emptied before it is written, and then it holds neither the old content nor the new one.
-/

namespace StaticSite

/-- Why an operation on files failed. -/
inductive FileError
  | notFound
  | alreadyExists
  | notADirectory
  | isADirectory
  | nameTooLong
  | nulInPath
  | notText
deriving DecidableEq, Repr

/-- The wording of a failure. -/
def FileError.message : FileError → String
  | notFound => "No such file or directory (os error 2)"
  | alreadyExists => "File exists (os error 17)"
  | notADirectory => "Not a directory (os error 20)"
  | isADirectory => "Is a directory (os error 21)"
  | nameTooLong => "File name too long (os error 36)"
  | nulInPath => "file name contained an unexpected NUL byte"
  | notText => "stream did not contain valid UTF-8"

/-! ### Paths -/

/-- A path as it is written. -/
structure Path where
  text : String
deriving DecidableEq, Repr

namespace Path

/-- A path inside a directory. An absolute path stays as it is. -/
def join (dir : Path) (file : String) : Path :=
  if file.toList.head? = some '/' then ⟨file⟩
  else if dir.text = "" || dir.text.toList.getLast? = some '/' then ⟨dir.text ++ file⟩
  else ⟨dir.text ++ "/" ++ file⟩

/-- The steps of a path. Empty steps are none, and a step `.` counts only in the last place. -/
def steps (p : Path) : List String :=
  let parts := ((Text.splitAt '/' p.text.toList).map String.ofList).filter (· ≠ "")
  parts.filter (· ≠ ".") ++ if parts.getLast? = some "." then ["."] else []

/-- Whether the path ends in a slash and so asks for a directory. -/
def asksDirectory (p : Path) : Bool :=
  p.text.toList.getLast? = some '/'

/-- The directory above, by the text of the path alone. -/
def parent (p : Path) : Path :=
  let isNoStep (part : List Char) := part = [] || part = ['.']
  let parts := (Text.splitAt '/' p.text.toList).reverse
  let above := ((parts.dropWhile isNoStep).drop 1).dropWhile isNoStep
  ⟨String.ofList (['/'].intercalate above.reverse)⟩

/-- The length in bytes that no path may have, and none above it. -/
def byteLimit : Nat := 4096

/-- Why a path leads nowhere in any tree, if that is so. -/
def fault? (p : Path) : Option FileError :=
  if p.text.toList.contains '\x00' then some .nulInPath
  else if byteLimit ≤ p.text.utf8ByteSize then some .nameTooLong
  else none

end Path

/-! ### Trees -/

/-- What a name in a directory stands for. -/
inductive Entry
  | directory
  | file (content : ByteArray)

instance : DecidableEq Entry
  | .directory, .directory => isTrue rfl
  | .directory, .file _ => isFalse nofun
  | .file _, .directory => isFalse nofun
  | .file a, .file b =>
    match ByteArray.instDecidableEq a b with
    | isTrue h => isTrue (congrArg Entry.file h)
    | isFalse h => isFalse fun e => h (Entry.file.inj e)

/-- A place in a tree, known by the names from the top of the tree down to it with slashes between
them. The top itself has no name. -/
structure Location where
  text : String
deriving DecidableEq, Repr

namespace Location

/-- The top of a tree. -/
def top : Location := ⟨""⟩

/-- The place of a name in the directory here. -/
def below (loc : Location) (name : String) : Location :=
  if loc = top then ⟨name⟩ else ⟨String.join [loc.text, "/", name]⟩

/-- The directory around a place; the top is its own. -/
def above (loc : Location) : Location :=
  ⟨String.ofList ((loc.text.toList.reverse.dropWhile (· ≠ '/')).drop 1).reverse⟩

/-- Whether a place is in a directory or anywhere below it. -/
def isWithin (loc dir : Location) : Bool :=
  loc ≠ top && (dir = top || (dir.text.toList ++ ['/']).isPrefixOf loc.text.toList)

end Location

/-- Directories and files by location. The top of the tree is always a directory. -/
structure FileTree where
  entries : List (Location × Entry) := []
deriving DecidableEq

namespace FileTree

/-- The tree with nothing in it. -/
def empty : FileTree := {}

/-- What there is at a location. -/
def entry? (t : FileTree) (loc : Location) : Option Entry :=
  if loc = .top then some .directory else t.entries.lookup loc

/-- Put an entry at a location, in place of what was there. -/
def put (t : FileTree) (loc : Location) (e : Entry) : FileTree :=
  ⟨(loc, e) :: t.entries.filter fun x => x.1 ≠ loc⟩

/-- Take away a location and everything below it. -/
def remove (t : FileTree) (loc : Location) : FileTree :=
  ⟨t.entries.filter fun x => x.1 ≠ loc && !x.1.isWithin loc⟩

/-- Walk steps from a location. The last step may lead to a name that stands for nothing yet. -/
def walk (t : FileTree) (here : Location) : List String → Except FileError Location
  | [] => .ok here
  | step :: rest =>
    if step = "." then t.walk here rest
    else if step = ".." then t.walk here.above rest
    else if 255 < step.utf8ByteSize then .error .nameTooLong
    else
      let next := here.below step
      if rest = [] then .ok next
      else
        match t.entry? next with
        | none => .error .notFound
        | some (.file _) => .error .notADirectory
        | some .directory => t.walk next rest

/-- Where a path leads. A path without text leads nowhere. -/
def locate (t : FileTree) (p : Path) : Except FileError Location :=
  if p.text = "" then .error .notFound
  else
    match p.fault? with
    | some e => .error e
    | none => t.walk .top (p.steps ++ if p.asksDirectory then ["."] else [])

/-- What a path leads to. -/
def find? (t : FileTree) (p : Path) : Option Entry :=
  match t.locate p with
  | .ok loc => t.entry? loc
  | .error _ => none

/-- Whether a path leads to something. -/
def holds (t : FileTree) (p : Path) : Bool := (t.find? p).isSome

/-- The content of a file. -/
def read (t : FileTree) (p : Path) : Except FileError ByteArray :=
  match t.locate p with
  | .error e => .error e
  | .ok loc =>
    match t.entry? loc with
    | none => .error .notFound
    | some .directory => .error .isADirectory
    | some (.file content) => .ok content

/-- The content of a file that has to be text. -/
def readText (t : FileTree) (p : Path) : Except FileError String :=
  match t.read p with
  | .error e => .error e
  | .ok content =>
    match String.fromUTF8? content with
    | some text => .ok text
    | none => .error .notText

/-- Write a file, in place of what it held. -/
def write (t : FileTree) (p : Path) (content : ByteArray) : Except FileError FileTree :=
  match t.locate p with
  | .error e => .error e
  | .ok loc =>
    match t.entry? loc with
    | some .directory => .error .isADirectory
    | _ => .ok (t.put loc (.file content))

/-- Write a text to a file. -/
def writeText (t : FileTree) (p : Path) (text : String) : Except FileError FileTree :=
  t.write p text.toUTF8

/-- Make the directories that are missing on a way down from a location. A failure keeps those that
were made before it. `made` tells whether one was made on the way: a file that is in the way of the
first one is a wrong step, and later it is a name that is taken. -/
def makeDirectoriesFrom (t : FileTree) (made : Bool) (here : Location) :
    List String → FileTree × Except FileError Unit
  | [] => (t, .ok ())
  | step :: rest =>
    if step = "." then t.makeDirectoriesFrom made here rest
    else if step = ".." then t.makeDirectoriesFrom made here.above rest
    else if 255 < step.utf8ByteSize then (t, .error .nameTooLong)
    else
      let next := here.below step
      match t.entry? next with
      | some .directory => t.makeDirectoriesFrom made next rest
      | some (.file _) =>
        let taken := rest = [] || (made && rest ≠ ["."])
        (t, .error (if taken then .alreadyExists else .notADirectory))
      | none =>
        if rest = ["."] then (t, .error .notFound)
        else (t.put next .directory).makeDirectoriesFrom true next rest

/-- Make a directory and the directories above it that are missing. A path without text asks for
none. -/
def makeDirectories (t : FileTree) (p : Path) : FileTree × Except FileError Unit :=
  match p.fault? with
  | some e => (t, .error e)
  | none => t.makeDirectoriesFrom false .top p.steps

/-- Delete what a path leads to, with everything below it. -/
def delete (t : FileTree) (p : Path) : FileTree :=
  match t.locate p with
  | .ok loc => t.remove loc
  | .error _ => t

/-- Put an entry where a path leads, and make the directories on the way. A path that leads nowhere
is left alone. -/
def place (t : FileTree) (p : Path) (e : Entry) : FileTree :=
  let t := (t.makeDirectories p.parent).1
  match t.locate p with
  | .ok loc => t.put loc e
  | .error _ => t

end FileTree

end StaticSite
