import DataLexer.Program

open DataLexer

namespace DataLexer.Program

/-- The names that lead from the root to a place. -/
def namesOf (place : String) : List String := (Path.pieces place).filter (· ≠ "")

/-- What a path leads to, without symbolic links on the way. -/
def placeOf? (path : String) : IO (Option String) := do
  match ← (IO.FS.realPath path).toBaseIO with
  | .ok place => return if ← place.pathExists then some place.toString else none
  | .error _ => return none

def isDirectoryAt (place : String) : IO Bool := do (← IO.FS.realPath place).isDir

/-- The entries of a directory, with the text of every document among them. A link to a directory leads to
the root here, and a link to nothing to itself: neither is followed. -/
partial def copyDirectory (settings : FileSettings) (place : String) : IO Entry := do
  let mut entries := #[]
  for item in ← (← IO.FS.realPath place).readDir do
    let path := item.path.toString
    let entry ← match (← item.path.symlinkMetadata).type, ← placeOf? path with
      | .dir, some inner =>
        if settings.recursive then copyDirectory settings inner else pure (.directory [])
      | _, none => pure (.link item.fileName)
      | _, some target =>
        if ← isDirectoryAt target then pure (.link "/")
        else if Path.hasExtension path settings.extensions then
          pure (.file (← IO.FS.readBinFile target))
        else pure (.file .empty)
    entries := entries.push (item.fileName, entry)
  return .directory entries.toList

/-- Copies what a path leads to, and the links on the way to it. -/
def copyPath (settings : FileSettings) (tree : FileTree) (path : String) : IO FileTree := do
  let mut tree := tree
  let mut place := if Path.isAbsolute path then "/" else "/" ++ "/".intercalate tree.workingDirectory
  for step in FileTree.steps path do
    match ← placeOf? (Path.join place step) with
    | none => return tree
    | some target =>
      tree := tree.makeDirectory [] place
      if step ≠ "." ∧ step ≠ ".." ∧ namesOf target ≠ namesOf place ++ [step] then
        tree := tree.putFrom (namesOf place) step (.link target)
      place := target
  let entry ← if ← isDirectoryAt place then copyDirectory settings place
    else pure (.file (← IO.FS.readBinFile place))
  return tree.putFrom [] place entry

/-- Copies what paths lead to. Directories come first: their copies leave out the texts of files that are
no documents. -/
def copyPaths (settings : FileSettings) (tree : FileTree) (paths : List String) : IO FileTree := do
  let mut directories := #[]
  let mut files := #[]
  for path in paths do
    match ← placeOf? path with
    | none => files := files.push path
    | some place =>
      if ← isDirectoryAt place then directories := directories.push path else files := files.push path
  (directories ++ files).foldlM (copyPath settings) tree

def readEnvironment : IO Environment := do
  let names := ["HOME", "XDG_CONFIG_HOME"] ++ CommandOption.everywhere.filterMap CommandOption.variableName?
  names.filterMapM fun name => do return (← IO.getEnv name).map fun value => (name, value)

def readTree (environment : Environment) (invocation : Invocation) : IO FileTree := do
  let place := (← IO.currentDir).toString
  let empty : FileTree := { workingDirectory := namesOf place }
  let tree := empty.makeDirectory [] place
  let outside := match invocation.config with
    | some path => [path]
    | none => Settings.searchPaths environment
  let known ← copyPaths {} tree outside
  let settings := (Settings.find known environment invocation.config).toOption.getD {}
  copyPaths settings.files tree (outside ++ invocation.command.paths)

end DataLexer.Program

def main (arguments : List String) : IO UInt32 := do
  let environment ← Program.readEnvironment
  let tree ← match Invocation.ofArguments environment arguments with
    | .ok invocation => Program.readTree environment invocation
    | .error _ => pure {}
  let stdout ← IO.getStdout
  let outcome := Program.run tree environment (← stdout.isTty) arguments
  IO.print outcome.stdout
  IO.eprint outcome.stderr
  return outcome.exit.toUInt32
