import DataLexer.Json
import DataLexer.Text.Align
import DataLexer.Token

namespace DataLexer

/-- A lexeme in one line. A backslash stays as it is. -/
def escapeLexeme (text : String) : String :=
  String.ofList (text.toList.flatMap fun c =>
    match c with
    | '\n' => ['\\', 'n']
    | '\r' => ['\\', 'r']
    | '\t' => ['\\', 't']
    | c => [c])

namespace Token

/-- The row of a token: place, kind and lexeme. -/
def row (token : Token) : String :=
  alignLeft 8 token.span.place ++ " " ++ alignLeft 13 token.kind.name ++ " " ++
    escapeLexeme token.text ++ "\n"

def toJson (token : Token) : Json :=
  .object [
    ("kind", .string token.kind.name),
    ("text", .string token.text),
    ("line", .number token.span.line),
    ("column", .number token.span.column),
    ("start", .number token.span.start),
    ("end", .number token.span.stop)]

end Token

def listTokens (tokens : List Token) : String := String.join (tokens.map (·.row))

def jsonTokens (tokens : List Token) : String := (Json.array (tokens.map (·.toJson))).print

end DataLexer
