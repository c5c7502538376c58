import DataLexer.Diagnostic.Basic
import DataLexer.LexError

namespace DataLexer

namespace LexError

def code : LexError → DiagnosticCode
  | unterminatedString _ => .unterminatedString
  | unbalancedDelimiter .. => .unbalancedDelimiter
  | unexpectedCharacter .. => .unexpectedCharacter

/-- The message without the place, which the diagnostic shows beside it. -/
def title : LexError → String
  | unterminatedString _ => "unterminated string"
  | unbalancedDelimiter (some c) _ _ => s!"unbalanced delimiter '{c}'"
  | unbalancedDelimiter none _ _ => "unclosed delimiter at end of input"
  | unexpectedCharacter c _ => s!"unexpected character {quotedChar c}"

/-- Which opening delimiter the error is about. -/
def notes : LexError → List String
  | unbalancedDelimiter (some _) _ (some ⟨delimiter, span⟩) =>
    [s!"'{delimiter.openChar}' opened at {span.place} is still waiting for '{delimiter.closeChar}'"]
  | unbalancedDelimiter (some _) _ none => ["no delimiter is open here"]
  | unbalancedDelimiter none _ (some ⟨delimiter, span⟩) =>
    [s!"'{delimiter.openChar}' opened at {span.place} is never closed"]
  | _ => []

/-- What would mend the document. -/
def helps : LexError → List String
  | unterminatedString _ => ["add a closing '\"' before the end of the line"]
  | unbalancedDelimiter none _ (some opener) => [s!"add a closing '{opener.delimiter.closeChar}'"]
  | unbalancedDelimiter .. => []
  | unexpectedCharacter .. => ["quote the value if it contains punctuation"]

def diagnostic (error : LexError) : Diagnostic where
  message := error.title
  span := error.span
  code := some error.code
  notes := error.notes
  helps := error.helps

/-- The error shown against the document that has it. -/
def render (error : LexError) (name source : String) (color : Bool) : String :=
  error.diagnostic.render ⟨name, source⟩ color

end LexError

end DataLexer
