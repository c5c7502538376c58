import DataLexer.Diagnostic.Excerpt

namespace DataLexer

/-- A stable name for a kind of problem: letters and a number. -/
structure DiagnosticCode where
  letters : String
  number : Nat
deriving DecidableEq

namespace DiagnosticCode

def unexpectedCharacter : DiagnosticCode := ⟨"E", 1001⟩
def unterminatedString : DiagnosticCode := ⟨"E", 1002⟩
def unbalancedDelimiter : DiagnosticCode := ⟨"E", 1005⟩
def unreadableFile : DiagnosticCode := ⟨"E", 9001⟩

/-- The number has at least four digits. -/
def name (code : DiagnosticCode) : String := code.letters ++ alignRight 4 (toString code.number) '0'

def describe (code : DiagnosticCode) : String := s!"DiagnosticCode({code.name})"

end DiagnosticCode

/-- A problem in a document. Without excerpts of its own it shows the line that its span starts on. -/
structure Diagnostic where
  message : String
  span : Span := {}
  code : Option DiagnosticCode := none
  notes : List String := []
  helps : List String := []
  excerpts : List Excerpt := []
deriving DecidableEq

namespace Diagnostic

def header (diagnostic : Diagnostic) : String :=
  match diagnostic.code with
  | some code => s!"error[{code.name}]"
  | none => "error"

def summary (diagnostic : Diagnostic) : String :=
  s!"{diagnostic.header}: {diagnostic.message} at {diagnostic.span.place}"

def shown (diagnostic : Diagnostic) (file : SourceFile) : List Excerpt :=
  if diagnostic.excerpts.isEmpty then (Excerpt.ofSpan? file diagnostic.span).toList
  else diagnostic.excerpts

/-- The first line. In colour the header is bold and red and the message bold. -/
def title (diagnostic : Diagnostic) (color : Bool) : String :=
  if color then
    s!"\x1b[1;31m{diagnostic.header}\x1b[0m\x1b[1m: {diagnostic.message}\x1b[0m\n"
  else s!"{diagnostic.header}: {diagnostic.message}\n"

/-- The diagnostic as it is printed: title, place, excerpts, notes and helps, each line ended by a line
feed. -/
def render (diagnostic : Diagnostic) (file : SourceFile) (color : Bool) : String :=
  let place :=
    if diagnostic.span.hasPlace then s!"  --> {file.name}:{diagnostic.span.place}\n" else ""
  let excerpts := diagnostic.shown file
  let width := (excerpts.map (gutterWidth ·.lineNumber)).foldl max 3
  let gutter := if excerpts.isEmpty then "" else spaces width ++ " |\n"
  let remark (kind text : String) := spaces width ++ s!" = {kind}: {text}\n"
  diagnostic.title color ++ place ++ gutter ++
    String.join (excerpts.map (·.render ++ "\n")) ++
    String.join (diagnostic.notes.map (remark "note")) ++
    String.join (diagnostic.helps.map (remark "help"))

end Diagnostic

/-- The diagnostics reported so far, in order. -/
structure DiagnosticLog where
  entries : List Diagnostic := []

namespace DiagnosticLog

def report (log : DiagnosticLog) (diagnostic : Diagnostic) : DiagnosticLog :=
  ⟨log.entries ++ [diagnostic]⟩

def errorCount (log : DiagnosticLog) : Nat := log.entries.length

def hasErrors (log : DiagnosticLog) : Bool := 0 < log.errorCount

/-- All entries, and the log without them. -/
def take (log : DiagnosticLog) : List Diagnostic × DiagnosticLog := (log.entries, {})

end DiagnosticLog

end DataLexer
