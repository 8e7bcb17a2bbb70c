import StaticSite.CommandLine.Run

/-!
# The program

Reads the files that a call may look at into a file tree, runs the call, and writes the files that
have changed.
-/

namespace StaticSite.CommandLine

/-- The files that a build writes. -/
def outputFiles (c : Call) : List Path :=
  (manifestFile :: Stock.pages.map fun p => pageFile p.slug).map (Path.mk c.output).join

/-- Read one file into a tree. -/
def snapshot (t : FileTree) (p : Path) : IO FileTree := do
  try
    let content ← IO.FS.readBinFile p.text
    return t.place p (.file content)
  catch
    | .inappropriateType .. => return (t.makeDirectories p).1
    | _ => return t

/-- Write one file if it has changed. -/
def writeBack (before after : FileTree) (p : Path) : IO Unit := do
  match after.read p with
  | .ok content =>
    if before.find? p ≠ some (.file content) then
      IO.FS.writeBinFile p.text content
  | .error _ => pure ()

end StaticSite.CommandLine

open StaticSite StaticSite.CommandLine in
/-- Run the call that the arguments stand for. -/
def main (args : List String) : IO UInt32 := do
  match Call.ofArguments? args with
  | none =>
    IO.eprintln "error: the arguments are no call"
    return 2
  | some c =>
    let files := outputFiles c
    let before ← (⟨c.config⟩ :: files).foldlM snapshot FileTree.empty
    let result := c.run before
    if result.tree ≠ before then
      IO.FS.createDirAll c.output
      files.forM (writeBack before result.tree)
    result.log.forM IO.eprintln
    IO.print result.output
    IO.eprint result.errorOutput
    return UInt32.ofNat result.status
