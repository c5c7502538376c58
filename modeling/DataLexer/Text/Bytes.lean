namespace DataLexer

/-- The length of a text in UTF-8 bytes. -/
def byteLength : List Char → Nat
  | [] => 0
  | c :: rest => c.utf8Size + byteLength rest

/-- A text cut after its first `n` bytes; `none` past its end and inside a character. -/
def splitAtByte? : List Char → Nat → Option (List Char × List Char)
  | text, 0 => some ([], text)
  | [], _ + 1 => none
  | c :: rest, n + 1 =>
    if n + 1 < c.utf8Size then none
    else (splitAtByte? rest (n + 1 - c.utf8Size)).map fun (before, after) => (c :: before, after)

/-- The text from byte `start` up to byte `stop`, when both lie between characters, in order. -/
def slice? (text : List Char) (start stop : Nat) : Option (List Char) := do
  guard (start ≤ stop)
  let (_, rest) ← splitAtByte? text start
  let (middle, _) ← splitAtByte? rest (stop - start)
  return middle

def encode (text : List Char) : List UInt8 := text.flatMap String.utf8EncodeChar

end DataLexer
