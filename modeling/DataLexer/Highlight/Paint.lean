import DataLexer.Highlight

namespace DataLexer

namespace Highlights

def styled (parameters : String) (text : List Char) : String :=
  "\x1b[" ++ parameters ++ "m" ++ String.ofList text ++ "\x1b[0m"

/-- A text cut after its first `n` bytes. What cannot be cut there goes to the first part whole. -/
def cut (text : List Char) (n : Nat) : List Char × List Char :=
  (splitAtByte? text n).getD (text, [])

/-- The text behind the ranges. Underlined is the part of the error's range that has not been drawn. -/
def errorPieces (error : Option (Nat × Nat)) (drawn : Nat) (text : List Char) : List String :=
  match error with
  | none => [String.ofList text]
  | some (start, stop) =>
    let (before, rest) := cut text (start - drawn)
    let (marked, after) := cut rest (stop - max start drawn)
    [String.ofList before, if marked.isEmpty then "" else styled "4;31" marked, String.ofList after]

/-- The ranges drawn on a text that starts at byte `drawn`, and what is behind them. -/
def pieces (error : Option (Nat × Nat)) :
    List HighlightRange → (drawn : Nat) → List Char → List String
  | [], drawn, text => errorPieces error drawn text
  | range :: ranges, drawn, text =>
    let (before, rest) := cut text (range.start - drawn)
    let (lexeme, after) := cut rest (range.stop - range.start)
    let shown := match range.style.ansi? with
      | some parameters => styled parameters lexeme
      | none => String.ofList lexeme
    String.ofList before :: shown :: pieces error ranges range.stop after

/-- The document with an escape sequence around every range that has one. Text between the ranges is
copied, and without colour the whole document is. -/
def paint (highlights : Highlights) (source : String) (color : Bool) : String :=
  if color then
    String.join (pieces highlights.errorRange? highlights.ranges 0 source.toList)
  else source

end Highlights

end DataLexer
