import DataLexer.Text.Printable

namespace DataLexer

/-- The letter that stands for a character behind a backslash. -/
def escapeLetter? : Char → Option Char
  | '\x00' => some '0'
  | '\t' => some 't'
  | '\r' => some 'r'
  | '\n' => some 'n'
  | '\\' => some '\\'
  | _ => none

/-- A code point in hexadecimal, in braces, behind a backslash and the letter `u`. -/
def escapeCodePoint (c : Char) : List Char :=
  ['\\', 'u', '{'] ++ Nat.toDigits 16 c.toNat ++ ['}']

/-- How a character is written between two of the given quotes. -/
def escapeIn (quote c : Char) : List Char :=
  if c = quote then ['\\', c]
  else match escapeLetter? c with
    | some letter => ['\\', letter]
    | none => if isPrintable c then [c] else escapeCodePoint c

/-- A text in quotes, with every character to be told from the output. -/
def quotedIn (quote : Char) (text : List Char) : String :=
  String.ofList (quote :: text.flatMap (escapeIn quote) ++ [quote])

/-- A text in double quotes; single quotes inside stay as they are. -/
def quotedText (text : String) : String := quotedIn '"' text.toList

/-- A character in single quotes; a double quote stays as it is. -/
def quotedChar (c : Char) : String := quotedIn '\'' [c]

end DataLexer
