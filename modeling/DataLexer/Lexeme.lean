import DataLexer.Delimiter
import DataLexer.Text.Blank
import DataLexer.Text.Numeric

namespace DataLexer

/-- A name starts with a letter of any script or an underscore. -/
def isNameStart (c : Char) : Bool := c = '_' || isAlphabetic c

/-- A name goes on with letters and numerals of any script, underscores and hyphens. -/
def isNameChar (c : Char) : Bool := c = '_' || c = '-' || isAlphanumeric c

inductive Form where
  | comment
  | string
  | number
  | name
  | colon
  | comma
  | opening (delimiter : Delimiter)
  | closing (delimiter : Delimiter)
deriving DecidableEq

/-- What a text begins with: a lexeme that goes on with `tail` behind its first character, a string
without an end, or a character that starts nothing. The text alone decides it; what has been read before may
only change what a name means and which closing delimiter is welcome. -/
inductive Reading where
  | lexeme (form : Form) (tail : List Char)
  | unterminated (tail : List Char)
  | unexpected
deriving DecidableEq

namespace Reading

/-- The rest of the line, without the line feed or carriage return and line feed that end it. -/
def commentTail : List Char → List Char
  | [] => []
  | '\n' :: _ => []
  | '\r' :: '\n' :: _ => []
  | c :: rest => c :: commentTail rest

/-- The text behind the opening quote of a string, and whether it ends in the closing quote. A backslash
takes the character behind it, unless that is a line feed. -/
def stringTail : List Char → List Char × Bool
  | [] => ([], false)
  | '"' :: _ => (['"'], true)
  | '\n' :: _ => ([], false)
  | '\r' :: '\n' :: _ => ([], false)
  | ['\\'] => (['\\'], false)
  | '\\' :: '\n' :: _ => (['\\'], false)
  | '\\' :: c :: rest => let (tail, closed) := stringTail rest; ('\\' :: c :: tail, closed)
  | c :: rest => let (tail, closed) := stringTail rest; (c :: tail, closed)

/-- Digits, and every dot that a digit follows. -/
def numberTail : List Char → List Char
  | [] => []
  | c :: rest =>
    if c.isDigit || c = '.' && rest.head?.any Char.isDigit then c :: numberTail rest else []

def startsComment (c : Char) (rest : List Char) : Bool :=
  c = '#' || c = '/' && rest.head? = some '/'

def startsNumber (c : Char) (rest : List Char) : Bool :=
  c.isDigit || c = '-' && rest.head?.any Char.isDigit

/-- Reads the lexeme at the start of a text that is not empty. -/
def ofText (c : Char) (rest : List Char) : Reading :=
  if startsComment c rest then .lexeme .comment (commentTail rest)
  else if c = '"' then
    match stringTail rest with
    | (tail, true) => .lexeme .string tail
    | (tail, false) => .unterminated tail
  else if c = ':' then .lexeme .colon []
  else if c = ',' then .lexeme .comma []
  else if startsNumber c rest then .lexeme .number (numberTail rest)
  else if isNameStart c then .lexeme .name (rest.takeWhile isNameChar)
  else match Delimiter.ofOpen? c, Delimiter.ofClose? c with
    | some delimiter, _ => .lexeme (.opening delimiter) []
    | none, some delimiter => .lexeme (.closing delimiter) []
    | none, none => .unexpected

end Reading

end DataLexer
