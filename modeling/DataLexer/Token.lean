import DataLexer.Position
import DataLexer.Text.Quoted

namespace DataLexer

/-- What a token is. A `key` is a name before a colon or in the column list of a table; a `newline` is a
line break between two rows of a table. -/
inductive TokenKind where
  | comment
  | key
  | colon
  | string
  | number
  | boolean
  | identifier
  | blockOpen
  | blockClose
  | arrayOpen
  | arrayClose
  | tableKeyword
  | parenOpen
  | parenClose
  | comma
  | newline
  | eof
deriving DecidableEq

namespace TokenKind

def name : TokenKind → String
  | comment => "Comment"
  | key => "Key"
  | colon => "Colon"
  | string => "String"
  | number => "Number"
  | boolean => "Boolean"
  | identifier => "Identifier"
  | blockOpen => "BlockOpen"
  | blockClose => "BlockClose"
  | arrayOpen => "ArrayOpen"
  | arrayClose => "ArrayClose"
  | tableKeyword => "TableKeyword"
  | parenOpen => "ParenOpen"
  | parenClose => "ParenClose"
  | comma => "Comma"
  | newline => "Newline"
  | eof => "Eof"

def all : List TokenKind :=
  [comment, key, colon, string, number, boolean, identifier, blockOpen, blockClose, arrayOpen,
    arrayClose, tableKeyword, parenOpen, parenClose, comma, newline, eof]

def ofName? (text : String) : Option TokenKind := all.find? (·.name = text)

def isPunctuation : TokenKind → Bool
  | colon | comma | blockOpen | blockClose | arrayOpen | arrayClose | parenOpen | parenClose => true
  | _ => false

/-- The kind of a reserved word; `none` for a name without a meaning of its own. -/
def ofWord? (word : String) : Option TokenKind :=
  if word = "table" then some tableKeyword
  else if word = "true" ∨ word = "false" then some boolean
  else none

end TokenKind

/-- A lexeme as it is written, quotes and comment marks included, with its kind and its place. -/
structure Token where
  kind : TokenKind
  text : String
  span : Span
deriving DecidableEq

namespace Token

/-- The end of the text. -/
def atEnd (place : Position) : Token := ⟨.eof, "", place.point⟩

def isEof (token : Token) : Bool := token.kind = .eof

def describe (token : Token) : String := s!"{token.kind.name}({quotedText token.text})"

end Token

end DataLexer
