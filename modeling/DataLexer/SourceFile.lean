import DataLexer.Text.Bytes
import DataLexer.Text.Lines
import DataLexer.Text.Quoted

namespace DataLexer

/-- Why a stretch of a text cannot be shown. -/
inductive SliceError where
  | reversed (start stop : Nat)
  | outside (length start stop : Nat)
  | insideCharacter (start stop : Nat)
deriving DecidableEq

def SliceError.message : SliceError → String
  | reversed start stop => s!"invalid range {start}..{stop}"
  | outside length start stop => s!"range {start}..{stop} is outside a {length}-byte file"
  | insideCharacter start stop => s!"range {start}..{stop} splits a character"

/-- A text under the name it is shown with. -/
structure SourceFile where
  name : String
  text : String

namespace SourceFile

def byteCount (file : SourceFile) : Nat := byteLength file.text.toList

def lines (file : SourceFile) : List (List Char) := splitLines file.text.toList

/-- The number of lines. An empty text has one. -/
def lineCount (file : SourceFile) : Nat := file.lines.length

/-- Line `n`, counted from one, without its end. -/
def line? (file : SourceFile) (n : Nat) : Option String :=
  if n = 0 then none
  else file.lines[n - 1]?.map fun line => String.ofList (trimReturns line)

def slice (file : SourceFile) (start stop : Nat) : Except SliceError String :=
  if stop < start then .error (.reversed start stop)
  else if file.byteCount < stop then .error (.outside file.byteCount start stop)
  else match slice? file.text.toList start stop with
    | some text => .ok (String.ofList text)
    | none => .error (.insideCharacter start stop)

def describe (file : SourceFile) : String :=
  s!"SourceFile \x7b name: {quotedText file.name}, bytes: {file.byteCount}, lines: {file.lineCount} \x7d"

end SourceFile

end DataLexer
