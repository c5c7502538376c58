import DataLexer.Settings

namespace DataLexer

namespace FileTree

def readDocument (tree : FileTree) (path : String) : Except FileError String :=
  if !tree.present path then .error (.missing path)
  else if !tree.isFile path then .error (.notFile path)
  else match tree.readText path with
    | .ok text => .ok text
    | .error cause => .error (.unreadable path cause)

end FileTree

/-- A sorted list of paths with one more path in it. A path that is there already keeps its spelling. -/
def insertPath (path : String) : List String → List String
  | [] => [path]
  | other :: paths =>
    match Path.order path other with
    | .lt => path :: other :: paths
    | .eq => other :: paths
    | .gt => other :: insertPath path paths

mutual

/-- The documents at an entry of a directory that is looked into. A directory is looked into if the
settings say so, a link to a directory never; everything else is a document by its extension. -/
def Entry.documents (tree : FileTree) (settings : FileSettings) (path : String) : Entry → List String
  | .directory entries =>
    if settings.recursive then Entry.documentsIn tree settings path entries else []
  | .link _ =>
    if tree.isDirectory path then []
    else if Path.hasExtension path settings.extensions then [path] else []
  | .file _ => if Path.hasExtension path settings.extensions then [path] else []

/-- The documents in a directory, given its entries. -/
def Entry.documentsIn (tree : FileTree) (settings : FileSettings) (directory : String) :
    List (String × Entry) → List String
  | [] => []
  | (name, entry) :: entries =>
    entry.documents tree settings (Path.join directory name) ++
      Entry.documentsIn tree settings directory entries

end

namespace FileTree

/-- What a path given by name stands for: itself if it leads to a file, whatever its extension, and the
documents in a directory. -/
def expand (tree : FileTree) (settings : FileSettings) (path : String) :
    Except RequestError (List String) :=
  match tree.find path with
  | .ok (.file _) => .ok [path]
  | .ok (.directory entries) => .ok (Entry.documentsIn tree settings path entries)
  | _ => .error (.missing path)

/-- The documents that a list of paths stands for, in order and without repetitions. -/
def collect (tree : FileTree) (settings : FileSettings) (paths : List String) :
    Except RequestError (List String) := do
  if paths.isEmpty then throw .noInput
  let found ← paths.mapM (tree.expand settings)
  return found.flatten.foldl (fun sorted path => insertPath path sorted) []

end FileTree

end DataLexer
