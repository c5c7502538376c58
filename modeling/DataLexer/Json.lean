namespace DataLexer

/-- A JSON value. The members of an object keep their order. -/
inductive Json where
  | null
  | number (value : Nat)
  | string (text : String)
  | array (items : List Json)
  | object (members : List (String × Json))

namespace Json

/-- How a character is written in a JSON string. -/
def escape (c : Char) : List Char :=
  match c with
  | '"' => ['\\', '"']
  | '\\' => ['\\', '\\']
  | '\x08' => ['\\', 'b']
  | '\x0c' => ['\\', 'f']
  | '\n' => ['\\', 'n']
  | '\r' => ['\\', 'r']
  | '\t' => ['\\', 't']
  | c =>
    if c.toNat < 0x20 then
      ['\\', 'u', '0', '0', Nat.digitChar (c.toNat / 16), Nat.digitChar (c.toNat % 16)]
    else [c]

def quote (text : String) : String := String.ofList ('"' :: text.toList.flatMap escape ++ ['"'])

/-- A line feed and the indent of a level. -/
def newLine (level : Nat) : String := String.ofList ('\n' :: List.replicate (2 * level) ' ')

mutual

/-- The pieces of the printed form of a value that stands at the given level. -/
def pieces (level : Nat) : Json → List String
  | null => ["null"]
  | number value => [toString value]
  | string text => [quote text]
  | array [] => ["[]"]
  | array (item :: items) =>
    "[" :: newLine (level + 1) :: item.pieces (level + 1) ++ itemPieces (level + 1) items ++
      [newLine level, "]"]
  | object [] => ["\x7b\x7d"]
  | object ((key, value) :: members) =>
    "\x7b" :: newLine (level + 1) :: quote key :: ": " :: value.pieces (level + 1) ++
      memberPieces (level + 1) members ++ [newLine level, "\x7d"]

/-- The elements behind the first one. -/
def itemPieces (level : Nat) : List Json → List String
  | [] => []
  | item :: items => "," :: newLine level :: item.pieces level ++ itemPieces level items

/-- The members behind the first one. -/
def memberPieces (level : Nat) : List (String × Json) → List String
  | [] => []
  | (key, value) :: members =>
    "," :: newLine level :: quote key :: ": " :: value.pieces level ++ memberPieces level members

end

/-- A value with one member or element on a line and two spaces per level, and a line feed behind it. -/
def print (value : Json) : String := String.join (value.pieces 0) ++ "\n"

def strings (texts : List String) : Json := .array (texts.map .string)

end Json

end DataLexer
