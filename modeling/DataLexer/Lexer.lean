import DataLexer.Cursor
import DataLexer.LexError
import DataLexer.Lexeme

namespace DataLexer

/-- What the text between a pair of delimiters is: a list of columns, where every name is a key; a list
of rows, where a line break ends a row that has started; or neither. -/
inductive Role where
  | nested
  | columns
  | rows (started : Bool)
deriving DecidableEq

/-- An opening delimiter that waits for its closing one. -/
structure Frame where
  opener : Opener
  role : Role
deriving DecidableEq

/-- How much of the head of a table has just been read, comments and line breaks aside. -/
inductive TableHead where
  | none
  | keyword
  | columns
deriving DecidableEq

/-- A pass over a text. `frames` holds the delimiters that are open, innermost first. -/
structure Lexer where
  cursor : Cursor
  frames : List Frame := []
  head : TableHead := .none
  finished : Bool := false

namespace Frame

/-- A row that starts in this frame has begun. -/
def startRow (frame : Frame) : Frame :=
  match frame.role with
  | .rows _ => { frame with role := .rows true }
  | _ => frame

def endRow (frame : Frame) : Frame :=
  match frame.role with
  | .rows _ => { frame with role := .rows false }
  | _ => frame

end Frame

def TableHead.roleOf : TableHead → Delimiter → Role
  | .keyword, .paren => .columns
  | .columns, .array => .rows false
  | _, _ => .nested

/-- The first line feed of the blank text ahead. -/
def Cursor.lineFeed? (cursor : Cursor) : Option Span :=
  let gap := cursor.ahead.takeWhile isBlank
  if '\n' ∈ gap then
    let place := cursor.place.after (gap.takeWhile (· != '\n'))
    some (place.upTo (place.next '\n'))
  else none

namespace Lexer

def ofText (text : String) : Lexer := { cursor := .ofText text.toList }

def depth (lexer : Lexer) : Nat := lexer.frames.length

/-- The kind of a name before the text `rest`. In a column list or before a colon on its line a name is a
key; elsewhere it may be a reserved word. -/
def nameKind (lexer : Lexer) (name rest : List Char) : TokenKind :=
  if lexer.frames.head?.any (·.role = .columns) || (rest.dropWhile isInlineBlank).head? = some ':' then
    .key
  else (TokenKind.ofWord? (String.ofList name)).getD .identifier

/-- What is open once a token has begun: the row that it stands in. -/
def startRow (lexer : Lexer) : List Frame :=
  match lexer.frames with
  | [] => []
  | frame :: outer => frame.startRow :: outer

/-- The lexer behind a lexeme of `size` characters, and the token for it. -/
def accept (lexer : Lexer) (size : Nat) (kind : TokenKind) (frames : List Frame) (head : TableHead) :
    Except LexError Token × Lexer :=
  let cursor := lexer.cursor.advanceBy size
  let text := String.ofList (lexer.cursor.ahead.take size)
  (.ok ⟨kind, text, lexer.cursor.place.upTo cursor.place⟩, { lexer with cursor, frames, head })

/-- The lexer that has come to its end at the given place. -/
def stop (lexer : Lexer) (cursor : Cursor) (error : LexError) : Except LexError Token × Lexer :=
  (.error error, { lexer with cursor, finished := true })

/-- Takes a closing delimiter, which has to fit the innermost open one. -/
def close (lexer : Lexer) (delimiter : Delimiter) : Except LexError Token × Lexer :=
  let cursor := lexer.cursor.advance
  let span := lexer.cursor.place.upTo cursor.place
  match lexer.frames with
  | [] => lexer.stop cursor (.unbalancedDelimiter (some delimiter.closeChar) span none)
  | frame :: outer =>
    if frame.opener.delimiter = delimiter then
      lexer.accept 1 delimiter.closeKind outer (if frame.role = .columns then .columns else .none)
    else lexer.stop cursor (.unbalancedDelimiter (some delimiter.closeChar) span frame.opener)

/-- Takes the lexeme at the cursor, given its form and the number of its characters. -/
def take (lexer : Lexer) (size : Nat) : Form → Except LexError Token × Lexer
  | .comment => lexer.accept size .comment lexer.frames lexer.head
  | .string => lexer.accept size .string lexer.startRow .none
  | .number => lexer.accept size .number lexer.startRow .none
  | .colon => lexer.accept size .colon lexer.startRow .none
  | .comma => lexer.accept size .comma lexer.startRow .none
  | .name =>
    let kind := lexer.nameKind (lexer.cursor.ahead.take size) (lexer.cursor.ahead.drop size)
    lexer.accept size kind lexer.startRow (if kind = .tableKeyword then .keyword else .none)
  | .opening delimiter =>
    let span := lexer.cursor.place.upTo lexer.cursor.advance.place
    let frame : Frame := ⟨⟨delimiter, span⟩, lexer.head.roleOf delimiter⟩
    lexer.accept size delimiter.openKind (frame :: lexer.startRow) .none
  | .closing delimiter => lexer.close delimiter

/-- Reads what starts at the cursor with the character `c`. -/
def scan (lexer : Lexer) (c : Char) (rest : List Char) : Except LexError Token × Lexer :=
  match Reading.ofText c rest with
  | .lexeme form tail => lexer.take (tail.length + 1) form
  | .unterminated tail =>
    let cursor := lexer.cursor.advanceBy (tail.length + 1)
    lexer.stop cursor (.unterminatedString (lexer.cursor.place.upTo cursor.place))
  | .unexpected =>
    let place := lexer.cursor.place
    lexer.stop lexer.cursor
      (.unexpectedCharacter c ⟨place.offset, place.offset + c.utf8Size, place.line, place.column⟩)

/-- The end of the text, where nothing may be open. -/
def finish (lexer : Lexer) : Except LexError Token × Lexer :=
  match lexer.frames with
  | [] => (.ok (.atEnd lexer.cursor.place), { lexer with finished := true })
  | frame :: _ =>
    lexer.stop lexer.cursor (.unbalancedDelimiter none lexer.cursor.place.point frame.opener)

/-- The row under way is over: a line feed was skipped before something that goes on with the rows.
Neither the end of the rows nor a comment does. -/
def rowEnds (lexer : Lexer) (c : Char) (rest : List Char) : Bool :=
  lexer.frames.head?.any (·.role = .rows true) && c != ']' && !Reading.startsComment c rest

def endRow (lexer : Lexer) : Lexer :=
  { lexer with frames := match lexer.frames with
      | [] => []
      | frame :: outer => frame.endRow :: outer }

/-- The next token, or the error that stops the pass, and the lexer behind it. After the end of the text or
the first error it gives the end forever. -/
def next (lexer : Lexer) : Except LexError Token × Lexer :=
  if lexer.finished then (.ok (.atEnd lexer.cursor.place), lexer)
  else
    let gap := lexer.cursor.skipByteOrderMark
    let lexer := { lexer with cursor := gap.advanceWhile isBlank }
    match lexer.cursor.ahead with
    | [] => lexer.finish
    | c :: rest =>
      match gap.lineFeed? with
      | some span =>
        if lexer.rowEnds c rest then (.ok ⟨.newline, "\n", span⟩, lexer.endRow)
        else lexer.scan c rest
      | none => lexer.scan c rest

/-- The next token without the end of the text: `none` there and behind an error. -/
def next? (lexer : Lexer) : Option (Except LexError Token) × Lexer :=
  if lexer.finished then (none, lexer)
  else match lexer.next with
    | (.ok token, after) => (if token.isEof then none else some (.ok token), after)
    | (.error error, after) => (some (.error error), after)

end Lexer

end DataLexer
