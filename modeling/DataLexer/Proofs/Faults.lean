import DataLexer.Proofs.Boundary
import DataLexer.Proofs.RowBreaks

namespace DataLexer

/-- What an error says of the text in its span and of the rest of the source behind it. -/
def LexError.Marks (text rest : List Char) : LexError → Prop
  | .unterminatedString _ => (∃ tail, text = '"' :: tail) ∧ '\n' ∉ text ∧ Reading.LineEnd rest
  | .unbalancedDelimiter (some c) _ _ => text = [c]
  | .unbalancedDelimiter none _ _ => text = [] ∧ rest = []
  | .unexpectedCharacter c _ => text = [c]

/-- The text of an error before the rest of the source: nothing at its end, a character, or a string that
goes on to the end of its line. -/
inductive Faulty : List Char → List Char → Prop
  | nothing : Faulty [] []
  | character {c rest} : isBlank c = false → Faulty [c] rest
  | string {tail rest} : '\n' ∉ tail → Reading.LineEnd rest → Faulty ('"' :: tail) rest

theorem Faulty.no_feed {text rest : List Char} (faulty : Faulty text rest) : '\n' ∉ text := by
  cases faulty with
  | nothing => exact List.not_mem_nil
  | character solid =>
    rintro (_ | ⟨_, inside⟩)
    · exact absurd solid (by decide)
    · cases inside
  | string plain _ => exact List.not_mem_cons_of_ne_of_not_mem (by decide) plain

theorem Faulty.solid {text rest : List Char} {c : Char} (faulty : Faulty text rest)
    (first : text.head? = some c) : isBlank c = false := by
  cases faulty with
  | nothing => cases first
  | character solid =>
    cases first
    exact solid
  | string _ _ =>
    cases first
    decide

theorem LexError.Marks.faulty {error : LexError} {text rest : List Char} (marks : error.Marks text rest)
    (solid : ∀ c, text.head? = some c → isBlank c = false) :
    Faulty text rest ∧ (text = [] → error.isEndOfInput = true) := by
  match error with
  | .unterminatedString _ =>
    obtain ⟨⟨tail, rfl⟩, plain, ended⟩ := marks
    exact ⟨.string (fun inside => plain (List.mem_cons_of_mem _ inside)) ended, by simp⟩
  | .unbalancedDelimiter none _ _ =>
    obtain ⟨rfl, rfl⟩ := marks
    exact ⟨.nothing, fun _ => rfl⟩
  | .unbalancedDelimiter (some c) _ _ | .unexpectedCharacter c _ =>
    obtain rfl := marks
    exact ⟨.character (solid c rfl), by simp⟩

namespace Lexer

variable {lexer after : Lexer} {error : LexError}

theorem Step.marks (step : Step lexer (.error error) after) :
    ∃ text rest, lexer.settled.cursor.ahead = text ++ rest ∧ error.Marks text rest ∧
      error.span = lexer.settled.cursor.place.upTo (lexer.settled.cursor.place.after text) := by
  cases step with
  | unclosed _ nothing => exact ⟨[], [], nothing, ⟨rfl, rfl⟩, rfl⟩
  | unbalanced meets => exact ⟨[_], _, meets.here, rfl, rfl⟩
  | @unterminated rest tail meets opened =>
    obtain ⟨more, rfl, ended⟩ := Reading.stringTail_append_of_open opened
    have plain := Reading.stringTail_no_feed (tail ++ more)
    rw [opened] at plain
    have inside : '\n' ∉ '"' :: tail := List.not_mem_cons_of_ne_of_not_mem (by decide) plain
    exact ⟨'"' :: tail, more, meets.here, ⟨⟨tail, rfl⟩, inside, ended⟩, rfl⟩
  | unexpected meets => exact ⟨[_], _, meets.here, rfl, rfl⟩

theorem Step.faulty (step : Step lexer (.error error) after) :
    ∃ text rest, lexer.settled.cursor.ahead = text ++ rest ∧ error.Marks text rest ∧
      Faulty text rest ∧ (text = [] → error.isEndOfInput = true) ∧
      error.span = lexer.settled.cursor.place.upTo (lexer.settled.cursor.place.after text) := by
  obtain ⟨text, rest, ahead, marks, span⟩ := step.marks
  have solid : ∀ c, text.head? = some c → isBlank c = false :=
    fun c head => lexer.solid_settled (by rw [ahead, List.head?_append, head]; rfl)
  obtain ⟨faulty, atEnd⟩ := marks.faulty solid
  exact ⟨text, rest, ahead, marks, faulty, atEnd, span⟩

end Lexer

theorem exists_faulty {source : String} {error : LexError}
    (failed : (tokenize source).error = some error) :
    ∃ before text rest, source.toList = before ++ (text ++ rest) ∧ error.Marks text rest ∧
      Faulty text rest ∧ (text = [] → error.isEndOfInput = true) ∧
      (before = [] → (text ++ rest).head? ≠ some '\uFEFF') ∧
      error.span = (Position.behind before).upTo (Position.behind (before ++ text)) := by
  obtain ⟨lexer, after, reached, call⟩ := reached_of_error failed
  have step := Lexer.step_of_next call
  have standing := reached.standing step.running_of_error
  have started := standing.started
  obtain ⟨text, rest, ahead, marks, faulty, atEnd, span⟩ := step.faulty
  have whole := standing.settled.whole.symm
  have unmarked := started.past
  rw [ahead] at whole unmarked
  refine ⟨_, text, rest, whole, marks, faulty, atEnd, unmarked, ?_⟩
  rw [span, started.after ahead, started.place]

end DataLexer
