import DataLexer.Position
import DataLexer.Text.Bytes

namespace DataLexer

/-- A place in a text between what has been read, nearest character first, and what has not. -/
structure Cursor where
  behind : List Char := []
  ahead : List Char
  place : Position := {}

namespace Cursor

def ofText (text : List Char) : Cursor := { ahead := text }

def atEnd (cursor : Cursor) : Bool := cursor.ahead.isEmpty

/-- The character `n` places ahead, NUL past the end. While the bytes up to it are ASCII the byte is
the character, and no other character has to be decoded. -/
def peek (cursor : Cursor) (n : Nat) : Char :=
  let bytes := (encode (cursor.ahead.take (n + 1))).take (n + 1)
  if bytes.length = n + 1 ∧ bytes.all (· < 0x80) then Char.ofNat (bytes.getD n 0).toNat
  else cursor.ahead.getD n '\x00'

/-- The next character, NUL at the end. -/
def current (cursor : Cursor) : Char := cursor.peek 0

/-- Steps over the next `n` characters, or over all that is left. -/
def advanceBy (cursor : Cursor) (n : Nat) : Cursor where
  behind := (cursor.ahead.take n).reverse ++ cursor.behind
  ahead := cursor.ahead.drop n
  place := cursor.place.after (cursor.ahead.take n)

def advance (cursor : Cursor) : Cursor := cursor.advanceBy 1

/-- Steps over the characters up to the first one that is not to be kept. -/
def advanceWhile (keep : Char → Bool) (cursor : Cursor) : Cursor :=
  cursor.advanceBy (cursor.ahead.takeWhile keep).length

/-- The start of the text, with a byte order mark next. -/
def atByteOrderMark (cursor : Cursor) : Bool :=
  cursor.place.offset = 0 && cursor.ahead.head? = some '\uFEFF'

/-- Steps over a byte order mark at the start of the text. It takes bytes but no column. -/
def skipByteOrderMark (cursor : Cursor) : Cursor :=
  if cursor.atByteOrderMark then
    let past := cursor.advance
    { past with place.line := cursor.place.line, place.column := cursor.place.column }
  else cursor

def isAt (cursor : Cursor) (c : Char) : Bool := cursor.ahead.head? = some c

def advanceIf (cursor : Cursor) (c : Char) : Cursor :=
  if cursor.isAt c then cursor.advance else cursor

/-- The text from an earlier place, given by its offset, up to the cursor. -/
def textFrom? (cursor : Cursor) (start : Nat) : Option (List Char) :=
  (splitAtByte? cursor.behind.reverse start).map Prod.snd

end Cursor

end DataLexer
