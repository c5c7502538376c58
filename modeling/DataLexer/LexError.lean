import DataLexer.Delimiter

namespace DataLexer

/-- Why lexing stopped. `found` is the closing character that is out of place, or `none` when the text
ended before `opener` was closed. -/
inductive LexError where
  | unterminatedString (span : Span)
  | unbalancedDelimiter (found : Option Char) (span : Span) (opener : Option Opener)
  | unexpectedCharacter (found : Char) (span : Span)
deriving DecidableEq

namespace LexError

/-- Where the error is shown. -/
def span : LexError → Span
  | unterminatedString span => span
  | unbalancedDelimiter _ span _ => span
  | unexpectedCharacter _ span => span

/-- The error in one line, with its place. -/
def message : LexError → String
  | unterminatedString span => s!"unterminated string starting at {span.place}"
  | unbalancedDelimiter (some c) span none =>
    s!"unbalanced delimiter '{c}' at {span.place} has no matching opener"
  | unbalancedDelimiter (some c) span (some opener) =>
    s!"unbalanced delimiter '{c}' at {span.place} does not close " ++
      s!"'{opener.delimiter.openChar}' opened at {opener.span.place}"
  | unbalancedDelimiter none _ (some opener) =>
    s!"unbalanced delimiter '{opener.delimiter.openChar}' opened at {opener.span.place} is never closed"
  | unbalancedDelimiter none span none => s!"unbalanced delimiter at {span.place}"
  | unexpectedCharacter c span => s!"unexpected character {quotedChar c} at {span.place}"

end LexError

end DataLexer
