namespace DataLexer

/-- A place in a text: the bytes before it, its line and its column. Lines and columns count from one,
columns in characters. They are never cut off: counters of 32 bits hold the same numbers as long as the text
has fewer than `2 ^ 32 - 1` characters, and may overflow in longer ones. -/
structure Position where
  offset : Nat := 0
  line : Nat := 1
  column : Nat := 1
deriving DecidableEq

/-- The place behind a character. A line feed starts a new line. -/
def Position.next (place : Position) (c : Char) : Position where
  offset := place.offset + c.utf8Size
  line := if c = '\n' then place.line + 1 else place.line
  column := if c = '\n' then 1 else place.column + 1

def Position.after (place : Position) (text : List Char) : Position :=
  text.foldl Position.next place

/-- A range of bytes together with the line and column it starts at. Line zero means that there is no
place to show. -/
structure Span where
  start : Nat := 0
  stop : Nat := 0
  line : Nat := 0
  column : Nat := 0
deriving DecidableEq

def Position.upTo (here there : Position) : Span :=
  ⟨here.offset, there.offset, here.line, here.column⟩

def Position.point (here : Position) : Span := here.upTo here

namespace Span

def isEmpty (span : Span) : Bool := span.stop ≤ span.start

/-- The number of bytes; a reversed range has none. -/
def length (span : Span) : Nat := span.stop - span.start

def hasPlace (span : Span) : Bool := 0 < span.line

/-- The place as messages show it. -/
def place (span : Span) : String := s!"{span.line}:{span.column}"

end Span

end DataLexer
