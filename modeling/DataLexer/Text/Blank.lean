import DataLexer.Text.CodeRange

namespace DataLexer

/-- The code points with the Unicode property White_Space, the same since version 6.3. -/
def blankRanges : List (Nat × Nat) := [
  (0x9, 0xD), (0x20, 0x20), (0x85, 0x85), (0xA0, 0xA0), (0x1680, 0x1680), (0x2000, 0x200A),
  (0x2028, 0x2029), (0x202F, 0x202F), (0x205F, 0x205F), (0x3000, 0x3000)]

/-- White space of any kind, line feeds included. -/
def isBlank (c : Char) : Bool := inRanges blankRanges c

/-- White space that does not end a line. -/
def isInlineBlank (c : Char) : Bool := c != '\n' && isBlank c

end DataLexer
