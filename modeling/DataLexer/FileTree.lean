import DataLexer.Path

namespace DataLexer

/-- What a name in a directory stands for. -/
inductive Entry where
  | file (bytes : ByteArray)
  | link (target : String)
  | directory (entries : List (String × Entry))

/-- Why a path leads to nothing that can be read. -/
inductive AccessError where
  | notFound
  | notDirectory
  | isDirectory
  | nameTooLong
  | tooManyLinks
  | notText
deriving DecidableEq

/-- The words of the operating system, with its number for the error. -/
def AccessError.message : AccessError → String
  | notFound => "No such file or directory (os error 2)"
  | notDirectory => "Not a directory (os error 20)"
  | isDirectory => "Is a directory (os error 21)"
  | nameTooLong => "File name too long (os error 36)"
  | tooManyLinks => "Too many levels of symbolic links (os error 40)"
  | notText => "stream did not contain valid UTF-8"

namespace Entry

def lookup (entries : List (String × Entry)) (name : String) : Option Entry :=
  (entries.find? (·.1 = name)).map (·.2)

/-- The entry below an entry, by the names on the way to it. -/
def at? (entry : Entry) : List String → Option Entry
  | [] => some entry
  | name :: names =>
    match entry with
    | directory entries => (lookup entries name).bind (·.at? names)
    | _ => none

/-- Puts an entry in a directory under a name, in the place of what is there. -/
def replace (entries : List (String × Entry)) (name : String) (entry : Entry) : List (String × Entry) :=
  if (lookup entries name).isSome then
    entries.map fun (other, old) => if other = name then (other, entry) else (other, old)
  else entries ++ [(name, entry)]

/-- Puts an entry below an entry, with the directories on the way to it. -/
def put (entry new : Entry) : List String → Entry
  | [] => new
  | name :: names =>
    let entries := match entry with
      | directory entries => entries
      | _ => []
    directory (replace entries name (((lookup entries name).getD (directory [])).put new names))

end Entry

/-- A file system: everything below the root, and the names that lead from there to the working directory
and to the home directory. -/
structure FileTree where
  root : Entry := .directory []
  workingDirectory : List String := []
  homeDirectory : List String := []

namespace FileTree

/-- The symbolic links that a path may lead through. -/
def maxLinks : Nat := 40

/-- The bytes of a name. -/
def maxName : Nat := 255

/-- The bytes of a path. -/
def maxPath : Nat := 4095

/-- The steps of a path in turn. A slash at the end asks for a directory, as a dot would. -/
def steps (path : String) : List String :=
  let pieces := Path.pieces path
  pieces.filter (· ≠ "") ++ if pieces.getLast? = some "" then ["."] else []

/-- Takes the steps from the place with the given names, through at most `links` symbolic links, and gives
the names of the place where they lead. -/
def follow (tree : FileTree) (links : Nat) (place : List String) (steps : List String) :
    Except AccessError (List String) :=
  match steps with
  | [] => .ok place
  | step :: steps =>
    match tree.root.at? place with
    | some (.directory entries) =>
      if step = "." then tree.follow links place steps
      else if step = ".." then tree.follow links place.dropLast steps
      else if maxName < step.utf8ByteSize then .error .nameTooLong
      else match Entry.lookup entries step with
        | none => .error .notFound
        | some (.link target) =>
          match links with
          | 0 => .error .tooManyLinks
          | links + 1 =>
            let start := if Path.isAbsolute target then [] else place
            tree.follow links start (FileTree.steps target ++ steps)
        | some _ => tree.follow links (place ++ [step]) steps
    | _ => .error .notDirectory
termination_by (links, steps.length)

def resolve (tree : FileTree) (path : String) : Except AccessError (List String) :=
  if path = "" ∨ path.contains '\x00' then .error .notFound
  else if maxPath < path.utf8ByteSize then .error .nameTooLong
  else
    let start := if Path.isAbsolute path then [] else tree.workingDirectory
    tree.follow maxLinks start (steps path)

def find (tree : FileTree) (path : String) : Except AccessError Entry := do
  let place ← tree.resolve path
  match tree.root.at? place with
  | some entry => return entry
  | none => throw .notFound

def present (tree : FileTree) (path : String) : Bool := (tree.find path).isOk

def isFile (tree : FileTree) (path : String) : Bool :=
  match tree.find path with
  | .ok (.file _) => true
  | _ => false

def isDirectory (tree : FileTree) (path : String) : Bool :=
  match tree.find path with
  | .ok (.directory _) => true
  | _ => false

def readText (tree : FileTree) (path : String) : Except AccessError String := do
  match ← tree.find path with
  | .file bytes =>
    match String.fromUTF8? bytes with
    | some text => return text
    | none => throw .notText
  | .directory _ => throw .isDirectory
  | .link _ => throw .notFound

/-- The names on the way to a new entry: those of the directory that it goes into, as far as that can be
told, and its own. -/
def placeFor (tree : FileTree) (start : List String) (path : String) : List String :=
  let steps := (steps path).filter (· ≠ ".")
  match tree.follow maxLinks start steps.dropLast with
  | .ok place => place ++ steps.getLast?.toList
  | .error _ => start ++ steps

/-- Puts a file or a link at a path that starts at the given place. -/
def putFrom (tree : FileTree) (start : List String) (path : String) (entry : Entry) : FileTree :=
  { tree with root := tree.root.put entry (tree.placeFor start path) }

/-- Makes a directory at a path that starts at the given place, unless there is one. -/
def makeDirectory (tree : FileTree) (start : List String) (path : String) : FileTree :=
  match tree.root.at? (tree.placeFor start path) with
  | some (.directory _) => tree
  | _ => tree.putFrom start path (.directory [])

end FileTree

end DataLexer
