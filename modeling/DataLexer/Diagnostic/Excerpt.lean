import DataLexer.Position
import DataLexer.SourceFile
import DataLexer.Text.Align

namespace DataLexer

def gutterWidth (lineNumber : Nat) : Nat := max 3 (toString lineNumber).length

/-- A line and the columns to point at, from `startColumn` up to but not including `endColumn`. -/
structure Excerpt where
  line : String
  lineNumber : Nat
  startColumn : Nat
  endColumn : Nat
  label : Option String := none
deriving DecidableEq

namespace Excerpt

/-- The line that a span starts on, pointing at the part of the span on that line. -/
def ofSpan? (file : SourceFile) (span : Span) : Option Excerpt := do
  let line ← file.line? span.line
  let width := match file.slice span.start span.stop with
    | .ok text => (text.toList.takeWhile (· != '\n')).length
    | .error _ => 0
  return {
    line
    lineNumber := span.line
    startColumn := span.column
    endColumn := min (span.column + width) (line.length + 1) }

/-- The carets; an empty stretch gets one too. -/
def carets (excerpt : Excerpt) : String :=
  repeated (max 1 (excerpt.endColumn - excerpt.startColumn)) '^'

/-- The numbered line, and below it the carets and the label. -/
def render (excerpt : Excerpt) : String :=
  let width := gutterWidth excerpt.lineNumber
  let label := match excerpt.label with
    | some label => " " ++ label
    | none => ""
  alignRight width (toString excerpt.lineNumber) ++ " | " ++ excerpt.line ++ "\n" ++
    spaces width ++ " | " ++ spaces (excerpt.startColumn - 1) ++ excerpt.carets ++ label

end Excerpt

end DataLexer
