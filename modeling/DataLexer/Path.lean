namespace DataLexer

/-- A part of a path: the root, the directory one is in, the one above, or a name. -/
inductive PathPart where
  | root
  | here
  | parent
  | name (text : String)
deriving DecidableEq

namespace PathPart

/-- The root comes first, names come last. -/
def rank : PathPart → Nat
  | root => 0
  | here => 1
  | parent => 2
  | name _ => 3

def order : PathPart → PathPart → Ordering
  | name a, name b => compare a b
  | a, b => compare a.rank b.rank

/-- Parts in turn; a path comes before every longer path that starts with it. -/
def orderAll : List PathPart → List PathPart → Ordering
  | [], [] => .eq
  | [], _ :: _ => .lt
  | _ :: _, [] => .gt
  | a :: as, b :: bs => (a.order b).then (orderAll as bs)

/-- The part that a piece between two slashes stands for. Empty pieces and dots stand for none. -/
def ofPiece? (piece : String) : Option PathPart :=
  if piece = "" ∨ piece = "." then none
  else if piece = ".." then some .parent
  else some (.name piece)

end PathPart

namespace Path

def splitSlashes : List Char → List (List Char)
  | [] => [[]]
  | c :: rest =>
    if c = '/' then [] :: splitSlashes rest
    else match splitSlashes rest with
      | [] => [[c]]
      | piece :: pieces => (c :: piece) :: pieces

def pieces (path : String) : List String := (splitSlashes path.toList).map String.ofList

def isAbsolute (path : String) : Bool := path.toList.head? = some '/'

/-- The parts of a path. Repeated slashes, a slash at the end and dots count for nothing, except for a dot
at the start. Two paths with the same parts are the same path, however they are spelled. -/
def parts (path : String) : List PathPart :=
  let pieces := pieces path
  let start :=
    if isAbsolute path then [.root] else if pieces.head? = some "." then [.here] else []
  start ++ pieces.filterMap PathPart.ofPiece?

def order (a b : String) : Ordering := PathPart.orderAll (parts a) (parts b)

/-- The name at the end of a path, unless the path ends in the root or in dots. -/
def fileName? (path : String) : Option String :=
  match (parts path).getLast? with
  | some (.name text) => some text
  | _ => none

/-- What follows the last dot of a name; a dot at the start of a name begins no extension. -/
def nameExtension? (name : List Char) : Option (List Char) :=
  let reversed := name.reverse
  match reversed.dropWhile (· != '.') with
  | [] | [_] => none
  | _ :: _ :: _ => some (reversed.takeWhile (· != '.')).reverse

def extension? (path : String) : Option String :=
  (fileName? path).bind fun name => (nameExtension? name.toList).map String.ofList

def join (directory name : String) : String :=
  if directory.toList.getLast? = some '/' then directory ++ name else directory ++ "/" ++ name

/-- A listed extension without the dots before it. -/
def bareExtension (extension : String) : List Char := extension.toList.dropWhile (· = '.')

/-- Two texts are the same up to the case of ASCII letters. -/
def sameLetters (a b : List Char) : Bool := a.map Char.toLower = b.map Char.toLower

/-- The extension of a path is one of those listed, with or without the dot before them. -/
def hasExtension (path : String) (extensions : List String) : Bool :=
  match extension? path with
  | some extension => extensions.any fun listed => sameLetters (bareExtension listed) extension.toList
  | none => false

end Path

end DataLexer
