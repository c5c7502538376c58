import DataLexer.TokenStream

namespace DataLexer

/-- How a token is drawn. -/
inductive Style where
  | comment
  | key
  | string
  | number
  | boolean
  | keyword
  | punctuation
  | plain
deriving DecidableEq

namespace Style

def name : Style → String
  | comment => "comment"
  | key => "key"
  | string => "string"
  | number => "number"
  | boolean => "boolean"
  | keyword => "keyword"
  | punctuation => "punctuation"
  | plain => "plain"

/-- The parameters of the terminal's escape sequence; plain text has none. -/
def ansi? : Style → Option String
  | comment => some "90"
  | key => some "34"
  | string => some "32"
  | number => some "33"
  | boolean => some "35"
  | keyword => some "1;35"
  | punctuation => some "2"
  | plain => none

end Style

namespace TokenKind

def style (kind : TokenKind) : Style :=
  match kind with
  | comment => .comment
  | key => .key
  | string => .string
  | number => .number
  | boolean => .boolean
  | tableKeyword => .keyword
  | kind => if kind.isPunctuation then .punctuation else .plain

/-- The scope by which editor themes know a kind. -/
def scope : TokenKind → String
  | comment => "comment.line.dan"
  | key => "entity.name.tag.key.dan"
  | colon => "punctuation.separator.key-value.dan"
  | string => "string.quoted.double.dan"
  | number => "constant.numeric.dan"
  | boolean => "constant.language.boolean.dan"
  | identifier => "variable.other.dan"
  | blockOpen => "punctuation.section.block.begin.dan"
  | blockClose => "punctuation.section.block.end.dan"
  | arrayOpen => "punctuation.section.array.begin.dan"
  | arrayClose => "punctuation.section.array.end.dan"
  | tableKeyword => "keyword.other.table.dan"
  | parenOpen => "punctuation.section.parens.begin.dan"
  | parenClose => "punctuation.section.parens.end.dan"
  | comma => "punctuation.separator.comma.dan"
  | newline => "punctuation.separator.row.dan"
  | eof => "source.dan"

end TokenKind

/-- A stretch of bytes to be drawn by its kind. -/
structure HighlightRange where
  start : Nat
  stop : Nat
  kind : TokenKind
deriving DecidableEq

def HighlightRange.style (range : HighlightRange) : Style := range.kind.style

/-- The ranges of a document in order, and what stopped the lexer. -/
structure Highlights where
  ranges : List HighlightRange
  error : Option LexError
deriving DecidableEq

namespace Highlights

def isComplete (highlights : Highlights) : Bool := highlights.error.isNone

/-- The bytes that the error is about. -/
def errorRange? (highlights : Highlights) : Option (Nat × Nat) :=
  highlights.error.map fun error => (error.span.start, error.span.stop)

end Highlights

/-- The stretch of a token. A line break between two rows has nothing to show. -/
def Token.range? (token : Token) : Option HighlightRange :=
  if token.kind = .newline then none else some ⟨token.span.start, token.span.stop, token.kind⟩

/-- The items of the document one after the other: tokens give ranges, an error is kept. -/
def highlight (source : String) : Highlights :=
  let items := (Lexer.ofText source).toList
  { ranges := items.filterMap fun
      | .ok token => token.range?
      | .error _ => none
    error := (items.filterMap fun
      | .ok _ => none
      | .error error => some error).getLast? }

end DataLexer
