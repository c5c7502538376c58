import DataLexer.Diagnostic.Excerpt
import DataLexer.Proofs.Faults
import DataLexer.Proofs.Positions

namespace DataLexer

namespace Excerpt

/-- The characters of the line as columns number them: a byte order mark at the start of a text has no
column. -/
def columns (excerpt : Excerpt) : List Char :=
  if excerpt.lineNumber = 1 then withoutMark excerpt.line.toList else excerpt.line.toList

/-- The excerpt starts at the place of the error, and the text of the error, without the carriage returns
at its end, stands in its columns when they number the characters `line`. -/
structure Shows (excerpt : Excerpt) (line : List Char) (file : SourceFile) (error : LexError) : Prop where
  number : excerpt.lineNumber = error.span.line
  column : excerpt.startColumn = error.span.column
  start : 1 ≤ excerpt.startColumn
  stop : excerpt.endColumn ≤ excerpt.line.length + 1
  marked : ∃ text, slice? file.text.toList error.span.start error.span.stop = some text ∧
    (line.drop (excerpt.startColumn - 1)).take (excerpt.endColumn - excerpt.startColumn) =
      trimReturns text

end Excerpt

/-- Without the carriage returns at its end, a line begins behind `lead` as the error does. -/
theorem Faulty.trimmed {text rest : List Char} (faulty : Faulty text rest) (lead : List Char)
    (unreturned : text = [] → lead.getLast? ≠ some '\r') :
    ∃ shown, trimReturns (lead ++ (text ++ firstLine rest)) = lead ++ shown ∧
      shown.take text.length = trimReturns text := by
  cases faulty with
  | nothing =>
    refine ⟨[], ?_, rfl⟩
    simpa [firstLine] using trimReturns_eq_self (unreturned rfl)
  | @character c rest solid =>
    have other : c ≠ '\r' := fun same => absurd solid (by rw [same]; decide)
    refine ⟨c :: trimReturns (firstLine rest), trimReturns_append_cons lead other _, ?_⟩
    exact (trimReturns_append_singleton [] other).symm
  | @string tail rest plain ended =>
    have line : trimReturns (tail ++ firstLine rest) = trimReturns tail := by
      cases ended with
      | text | feed => simp [firstLine]
      | returned => exact trimReturns_append_return tail
    refine ⟨'"' :: trimReturns tail, ?_, ?_⟩
    · rw [List.cons_append, trimReturns_append_cons lead (by decide), line]
    · have short : (trimReturns tail).length ≤ tail.length := (List.rdropWhile_prefix _ _).length_le
      rw [List.length_cons, List.take_succ_cons, List.take_of_length_le short]
      exact (trimReturns_append_cons [] (by decide) tail).symm

theorem lastLine_withoutMark {text : List Char} (feed : '\n' ∈ text) :
    lastLine (withoutMark text) = lastLine text := by
  unfold withoutMark
  split
  · rename_i text
    have inside : '\n' ∈ text := by simpa using feed
    exact (lastLine_append_of_feed ['\uFEFF'] inside).symm
  · rfl

theorem getLast?_of_lastLine_withoutMark {text : List Char} {c : Char}
    (last : (lastLine (withoutMark text)).getLast? = some c) : text.getLast? = some c := by
  obtain ⟨lead, whole⟩ := (lastLine_suffix (withoutMark text)).trans (withoutMark_suffix text)
  rw [← whole, List.getLast?_append, last]
  rfl

theorem withoutMark_trimReturns (line : List Char) :
    withoutMark (trimReturns line) = trimReturns (withoutMark line) := by
  by_cases mark : line.head? = some '\uFEFF'
  · obtain ⟨rest, rfl⟩ := List.head?_eq_some_iff.mp mark
    exact congrArg withoutMark (trimReturns_append_cons [] (by decide) rest)
  · rw [withoutMark_of_head mark]
    refine withoutMark_of_head fun found => mark ?_
    obtain ⟨rest, shown⟩ := List.head?_eq_some_iff.mp found
    obtain ⟨more, whole⟩ : trimReturns line <+: line := List.rdropWhile_prefix _ _
    rw [← whole, shown]
    rfl

theorem SourceFile.slice_of_append {file : SourceFile} {before text rest : List Char}
    (whole : file.text.toList = before ++ text ++ rest) :
    file.slice (byteLength before) (byteLength (before ++ text)) = .ok (String.ofList text) := by
  unfold slice byteCount
  rw [whole, slice?_append, if_neg (by simp), if_neg (by simp)]

namespace Excerpt

variable {excerpt : Excerpt} {file : SourceFile} {before text rest : List Char}

/-- A span on a line of the file that can be cut out of it has an excerpt. -/
theorem exists_ofSpan? {span : Span} {line : String} (found : file.line? span.line = some line)
    (cut : file.slice span.start span.stop = .ok (String.ofList text)) :
    ∃ excerpt, ofSpan? file span = some excerpt ∧ excerpt.line = line ∧
      excerpt.lineNumber = span.line ∧ excerpt.startColumn = span.column ∧
      excerpt.endColumn =
        min (excerpt.startColumn + (firstLine text).length) (excerpt.line.length + 1) := by
  have width : firstLine text = (String.ofList text).toList.takeWhile (· != '\n') := by
    rw [String.toList_ofList, firstLine]
  rw [ofSpan?, width]
  simp only [found, cut]
  exact ⟨_, rfl, rfl, rfl, rfl, rfl⟩

theorem ofSpan?_of_append (whole : file.text.toList = before ++ (text ++ rest)) (plain : '\n' ∉ text) :
    ∃ excerpt, ofSpan? file ((Position.behind before).upTo (Position.behind (before ++ text))) =
        some excerpt ∧
      excerpt.line.toList = trimReturns (lastLine before ++ (text ++ firstLine rest)) ∧
      excerpt.lineNumber = 1 + before.count '\n' ∧
      excerpt.startColumn = 1 + (lastLine (withoutMark before)).length ∧
      excerpt.endColumn = min (excerpt.startColumn + text.length) (excerpt.line.length + 1) := by
  have found := SourceFile.line?_of_append whole
  have slice := SourceFile.slice_of_append (by rw [whole, List.append_assoc])
  rw [firstLine_append plain, ← Position.behind_line] at found
  rw [← Position.behind_offset before, ← Position.behind_offset (before ++ text)] at slice
  let span := (Position.behind before).upTo (Position.behind (before ++ text))
  have cut : file.slice span.start span.stop = .ok (String.ofList text) := slice
  obtain ⟨excerpt, made, line, number, start, stop⟩ := exists_ofSpan? found cut
  rw [firstLine_eq_self plain] at stop
  refine ⟨excerpt, made, ?_, number.trans ?_, start.trans ?_, stop⟩
  · rw [line, String.toList_ofList]
  · exact Position.behind_line before
  · exact Position.behind_column before

/-- The columns number what the lexer has counted. -/
theorem columns_of_append (number : excerpt.lineNumber = 1 + before.count '\n')
    (line : excerpt.line.toList = trimReturns (lastLine before ++ rest))
    (unmarked : before = [] → rest.head? ≠ some '\uFEFF') :
    excerpt.columns = trimReturns (lastLine (withoutMark before) ++ rest) := by
  unfold columns
  by_cases feed : '\n' ∈ before
  · have positive := List.count_pos_iff.mpr feed
    rw [if_neg (by omega), line, lastLine_withoutMark feed]
  · have plain : '\n' ∉ withoutMark before := fun inside => feed ((withoutMark_suffix before).mem inside)
    rw [number, List.count_eq_zero.mpr feed, if_pos rfl, line, lastLine_eq_self feed, lastLine_eq_self plain,
      withoutMark_trimReturns, withoutMark_append unmarked]

theorem length_columns_le (excerpt : Excerpt) : excerpt.columns.length ≤ excerpt.line.length := by
  unfold columns
  split
  · exact (withoutMark_suffix _).length_le
  · exact le_rfl

/-- A line that goes on behind `lead` is long enough for columns behind it. -/
theorem ordered {lead shown : List Char} (room : (lead ++ shown).length ≤ excerpt.line.length)
    (start : excerpt.startColumn = 1 + lead.length)
    (stop : excerpt.endColumn = min (excerpt.startColumn + text.length) (excerpt.line.length + 1)) :
    excerpt.startColumn ≤ excerpt.endColumn := by
  rw [List.length_append] at room
  omega

theorem marked {lead shown : List Char} (room : (lead ++ shown).length ≤ excerpt.line.length)
    (start : excerpt.startColumn = 1 + lead.length)
    (stop : excerpt.endColumn = min (excerpt.startColumn + text.length) (excerpt.line.length + 1)) :
    ((lead ++ shown).drop (excerpt.startColumn - 1)).take (excerpt.endColumn - excerpt.startColumn) =
      shown.take text.length := by
  rw [List.length_append] at room
  rw [start, Nat.add_sub_cancel_left, List.drop_left, List.take_eq_take_iff]
  omega

end Excerpt

/-- The excerpt of an error shows its text. Its columns are in order, except where a text ends behind a
carriage return with a bracket open: the line is cut off before that place. Counters of 32 bits give the same
columns in texts of fewer than `2 ^ 32 - 1` characters. -/
theorem excerpt_shows_error (file : SourceFile) {error : LexError}
    (failed : (tokenize file.text).error = some error) :
    ∃ excerpt, Excerpt.ofSpan? file error.span = some excerpt ∧
      excerpt.Shows excerpt.columns file error ∧
      ((error.isEndOfInput = true → file.text.toList.getLast? ≠ some '\r') →
        excerpt.startColumn ≤ excerpt.endColumn) := by
  obtain ⟨before, text, rest, whole, _, faulty, atEnd, unmarked, span⟩ := exists_faulty failed
  have cut := slice?_append before text rest
  rw [List.append_assoc, ← whole, ← Position.behind_offset before,
    ← Position.behind_offset (before ++ text)] at cut
  have lineUnmarked : before = [] → (text ++ firstLine rest).head? ≠ some '\uFEFF' := by
    intro fresh mark
    rw [← firstLine_append faulty.no_feed] at mark
    exact unmarked fresh (head?_of_firstLine mark)
  obtain ⟨excerpt, found, line, number, start, stop⟩ :=
    Excerpt.ofSpan?_of_append whole faulty.no_feed
  have columns := Excerpt.columns_of_append number line lineUnmarked
  rw [span]
  refine ⟨excerpt, found, ⟨?_, ?_, by omega, by omega, text, ?_, ?_⟩, ?_⟩
  · rw [span, number]
    exact (Position.behind_line before).symm
  · rw [span, start]
    exact (Position.behind_column before).symm
  · rw [span]
    exact cut
  · by_cases empty : text = []
    · have nothing : excerpt.endColumn - excerpt.startColumn = 0 := by
        rw [stop, empty, List.length_nil]
        omega
      rw [nothing, empty]
      rfl
    · obtain ⟨shown, behind, trimmed⟩ := faulty.trimmed _ fun none => absurd none empty
      have room := excerpt.length_columns_le
      rw [columns, behind] at room ⊢
      rw [Excerpt.marked room start stop, trimmed]
  · intro unreturned
    have leadUnreturned : text = [] → (lastLine (withoutMark before)).getLast? ≠ some '\r' := by
      rintro rfl returned
      cases faulty
      have last := getLast?_of_lastLine_withoutMark returned
      exact unreturned (atEnd rfl) (by simpa [whole] using last)
    obtain ⟨shown, behind, _⟩ := faulty.trimmed _ leadUnreturned
    have room := excerpt.length_columns_le
    rw [columns, behind] at room
    exact Excerpt.ordered room start stop

/-- A string without an end, behind a byte order mark. -/
theorem excerpt_shows_string :
    (tokenize "\uFEFF[ \"b").error = some (.unterminatedString ⟨5, 7, 1, 3⟩) ∧
      ∃ excerpt, Excerpt.ofSpan? ⟨"a.dan", "\uFEFF[ \"b"⟩ ⟨5, 7, 1, 3⟩ = some excerpt ∧
        excerpt.Shows excerpt.columns ⟨"a.dan", "\uFEFF[ \"b"⟩ (.unterminatedString ⟨5, 7, 1, 3⟩) ∧
        excerpt.startColumn ≤ excerpt.endColumn := by
  have opens : (Lexer.ofText "\uFEFF[ \"b").next.1 = .ok ⟨.arrayOpen, "[", ⟨3, 4, 1, 1⟩⟩ := by decide
  have stops : (Lexer.ofText "\uFEFF[ \"b").next.2.next.1 = .error (.unterminatedString ⟨5, 7, 1, 3⟩) := by
    decide
  have failed : (tokenize "\uFEFF[ \"b").error = some (.unterminatedString ⟨5, 7, 1, 3⟩) := by
    rw [tokenize, Lexer.drain_of_next opens, Lexer.drain_of_error (Prod.ext stops rfl)]
    rfl
  obtain ⟨excerpt, found, shows, order⟩ := excerpt_shows_error ⟨"a.dan", _⟩ failed
  exact ⟨failed, excerpt, found, shows, order (by decide)⟩

/-- Behind a byte order mark, and at the end of a text behind a carriage return, columns do not number the
characters of the line that is shown. -/
theorem excerpt_misses_error :
    (∃ error, (tokenize "\uFEFF=").error = some error ∧
      ¬ ∃ excerpt, Excerpt.ofSpan? ⟨"a.dan", "\uFEFF="⟩ error.span = some excerpt ∧
        excerpt.Shows excerpt.line.toList ⟨"a.dan", "\uFEFF="⟩ error) ∧
    ∃ error, (tokenize "\x7b\r").error = some error ∧
      ¬ ∃ excerpt, Excerpt.ofSpan? ⟨"a.dan", "\x7b\r"⟩ error.span = some excerpt ∧
        excerpt.startColumn ≤ excerpt.endColumn := by
  constructor
  · have stops : (Lexer.ofText "\uFEFF=").next.1 = .error (.unexpectedCharacter '=' ⟨3, 4, 1, 1⟩) := by
      decide
    have excerpt : Excerpt.ofSpan? ⟨"a.dan", "\uFEFF="⟩ ⟨3, 4, 1, 1⟩ = some ⟨"\uFEFF=", 1, 1, 2, none⟩ := by
      decide
    refine ⟨.unexpectedCharacter '=' ⟨3, 4, 1, 1⟩, ?_, ?_⟩
    · rw [tokenize, Lexer.drain_of_error (Prod.ext stops rfl)]
    · rintro ⟨other, found, shows⟩
      cases excerpt.symm.trans found
      obtain ⟨text, cut, marked⟩ := shows.marked
      have sliced : slice? "\uFEFF=".toList 3 4 = some ['='] := by decide
      cases sliced.symm.trans cut
      exact absurd marked (by decide)
  · have opens : (Lexer.ofText "\x7b\r").next.1 = .ok ⟨.blockOpen, "\x7b", ⟨0, 1, 1, 1⟩⟩ := by decide
    have stops : (Lexer.ofText "\x7b\r").next.2.next.1 =
        .error (.unbalancedDelimiter none ⟨2, 2, 1, 3⟩ (some ⟨.block, ⟨0, 1, 1, 1⟩⟩)) := by
      decide
    have excerpt : Excerpt.ofSpan? ⟨"a.dan", "\x7b\r"⟩ ⟨2, 2, 1, 3⟩ = some ⟨"\x7b", 1, 3, 2, none⟩ := by
      decide
    refine ⟨.unbalancedDelimiter none ⟨2, 2, 1, 3⟩ (some ⟨.block, ⟨0, 1, 1, 1⟩⟩), ?_, ?_⟩
    · rw [tokenize, Lexer.drain_of_next opens, Lexer.drain_of_error (Prod.ext stops rfl)]
      rfl
    · rintro ⟨other, found, order⟩
      cases excerpt.symm.trans found
      exact absurd order (by decide)

end DataLexer
