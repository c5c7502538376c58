import DataLexer.Delimiter
import DataLexer.Highlight
import DataLexer.Json
import DataLexer.Text.Align

namespace DataLexer

/-- A registration. The first of the comment marks is the one for turning lines into comments. -/
structure Language where
  id : String
  displayName : String
  aliases : List String
  extensions : List String
  lineComment : String
  lineComments : List String
  brackets : List (String × String)
  autoClosingPairs : List (String × String)
  surroundingPairs : List (String × String)
  scopeName : String

namespace Language

def fileExtensions : List String := [".dan"]

/-- Each pair of delimiters as two texts. -/
def bracketPairs : List (String × String) :=
  Delimiter.all.map fun delimiter => (delimiter.openChar.toString, delimiter.closeChar.toString)

/-- The brackets and the quotes of a string. -/
def closingPairs : List (String × String) := bracketPairs ++ [("\"", "\"")]

def dan : Language where
  id := "dan"
  displayName := "DAN (Data Advanced Notation)"
  aliases := ["DAN", "dan"]
  extensions := fileExtensions
  lineComment := "#"
  lineComments := ["#", "//"]
  brackets := bracketPairs
  autoClosingPairs := closingPairs
  surroundingPairs := closingPairs
  scopeName := TokenKind.eof.scope

def jsonPairs (pairs : List (String × String)) : Json :=
  .array (pairs.map fun (first, last) => .strings [first, last])

def toJson (language : Language) : Json :=
  .object [
    ("id", .string language.id),
    ("displayName", .string language.displayName),
    ("aliases", .strings language.aliases),
    ("extensions", .strings language.extensions),
    ("lineComment", .string language.lineComment),
    ("lineComments", .strings language.lineComments),
    ("brackets", jsonPairs language.brackets),
    ("autoClosingPairs", jsonPairs language.autoClosingPairs),
    ("surroundingPairs", jsonPairs language.surroundingPairs),
    ("scopeName", .string language.scopeName)]

def listPairs (pairs : List (String × String)) : String :=
  " ".intercalate (pairs.map fun (first, last) => first ++ last)

/-- The registration as people read it, one field on a line. -/
def toText (language : Language) : String :=
  let row (field value : String) := alignLeft 15 (field ++ ":") ++ " " ++ value ++ "\n"
  String.join [
    row "id" language.id,
    row "name" language.displayName,
    row "aliases" (", ".intercalate language.aliases),
    row "extensions" (", ".intercalate language.extensions),
    row "line comments" (" ".intercalate language.lineComments),
    row "toggle comment" language.lineComment,
    row "brackets" (listPairs language.brackets),
    row "auto-closing" (listPairs language.autoClosingPairs),
    row "scope" language.scopeName]

end Language

end DataLexer
