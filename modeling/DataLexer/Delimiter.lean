import DataLexer.Token

namespace DataLexer

/-- Braces, square brackets and parentheses. -/
inductive Delimiter where
  | block
  | array
  | paren
deriving DecidableEq

namespace Delimiter

def name : Delimiter → String
  | block => "Block"
  | array => "Array"
  | paren => "Paren"

def openChar : Delimiter → Char
  | block => '{'
  | array => '['
  | paren => '('

def closeChar : Delimiter → Char
  | block => '}'
  | array => ']'
  | paren => ')'

def openKind : Delimiter → TokenKind
  | block => .blockOpen
  | array => .arrayOpen
  | paren => .parenOpen

def closeKind : Delimiter → TokenKind
  | block => .blockClose
  | array => .arrayClose
  | paren => .parenClose

def all : List Delimiter := [block, array, paren]

def ofName? (text : String) : Option Delimiter := all.find? (·.name = text)

def ofOpen? (c : Char) : Option Delimiter := all.find? (·.openChar = c)

def ofClose? (c : Char) : Option Delimiter := all.find? (·.closeChar = c)

def pair (delimiter : Delimiter) : String := String.ofList [delimiter.openChar, delimiter.closeChar]

end Delimiter

/-- An opening delimiter at its place. -/
structure Opener where
  delimiter : Delimiter
  span : Span
deriving DecidableEq

end DataLexer
