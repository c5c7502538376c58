import DataLexer.Proofs.Carets
import DataLexer.Proofs.Gutters

namespace DataLexer

/-- The span is a stretch of the text, with the line and the column that it starts at. Every character of
the line has a column. -/
def Span.CountsAll (span : Span) (source : List Char) : Prop :=
  ∃ before text after, span.Cuts source before text after ∧
    span.line = 1 + before.count '\n' ∧ span.column = 1 + (lastLine before).length

namespace Excerpt

/-- The carets stand below the column: it is one of those to point at or, where there are none, the first
column. -/
def IsMarked (excerpt : Excerpt) (column : Nat) : Prop :=
  (excerpt.startColumn ≤ column ∧ column < excerpt.endColumn) ∨
    (excerpt.endColumn ≤ excerpt.startColumn ∧ column = excerpt.startColumn)

/-- Two rows are printed, the line behind a gutter and a row that has carets below the marked columns of
the line and nowhere else. -/
def PrintsCarets (excerpt : Excerpt) : Prop :=
  ∃ gutter under, splitLines excerpt.render.toList = [gutter ++ excerpt.line.toList, under] ∧
    ∀ i, under[i]? = some '^' ↔ ∃ column, i + 1 = gutter.length + column ∧ excerpt.IsMarked column

/-- The excerpt has the line and the column of the span, and in its columns and above its carets stands
what the span holds before the end of that line. -/
structure Points (excerpt : Excerpt) (file : SourceFile) (span : Span) : Prop where
  line : file.line? span.line = some excerpt.line
  number : excerpt.lineNumber = span.line
  column : excerpt.startColumn = span.column
  start : 1 ≤ excerpt.startColumn
  order : excerpt.startColumn ≤ excerpt.endColumn
  stop : excerpt.endColumn ≤ excerpt.line.length + 1
  marked : slice? file.text.toList span.start
      (min span.stop (file.lineStart span.line + byteLength excerpt.line.toList)) =
    some ((excerpt.line.toList.drop (excerpt.startColumn - 1)).take
      (excerpt.endColumn - excerpt.startColumn))
  printed : excerpt.PrintsCarets

end Excerpt

/-- What the stretch `text` has in common with the rest of its line as it is shown: as many characters of
the line as stand on the first line of the stretch. -/
theorem slice?_min {before text after shown : List Char} (begins : shown <+: firstLine (text ++ after)) :
    slice? (before ++ text ++ after) (byteLength before)
        (min (byteLength (before ++ text)) (byteLength (before ++ shown))) =
      some (shown.take (firstLine text).length) := by
  have inside : shown <+: text ++ after := begins.trans (List.takeWhile_prefix _)
  have plain : '\n' ∉ shown := fun feed => feed_not_mem_firstLine _ (begins.mem feed)
  rw [byteLength_append, byteLength_append]
  rcases Nat.le_total (byteLength text) (byteLength shown) with narrow | wide
  · obtain ⟨more, rfl⟩ := prefix_of_byteLength_le (List.prefix_append text after) inside narrow
    have textPlain : '\n' ∉ text := fun feed => plain (List.mem_append_left _ feed)
    rw [Nat.min_eq_left (by omega), ← byteLength_append, slice?_append, firstLine_eq_self textPlain,
      List.take_left]
  · obtain ⟨more, rfl⟩ := prefix_of_byteLength_le inside (List.prefix_append text after) wide
    have short : shown.length ≤ (firstLine (shown ++ more)).length := by
      rw [firstLine_append plain, List.length_append]
      omega
    have split : before ++ (shown ++ more) ++ after = before ++ shown ++ (more ++ after) := by simp
    rw [Nat.min_eq_right (by omega), ← byteLength_append, split, slice?_append,
      List.take_of_length_le short]

theorem getElem?_append_replicate_iff {c : Char} {front : List Char} (other : c ∉ front) (n i : Nat) :
    (front ++ List.replicate n c)[i]? = some c ↔ front.length ≤ i ∧ i < front.length + n := by
  rcases Nat.lt_or_ge i front.length with inside | behind
  · rw [List.getElem?_append_left inside]
    exact ⟨fun found => absurd (List.mem_of_getElem? found) other, fun bounds => by omega⟩
  · rw [List.getElem?_append_right behind, List.getElem?_replicate]
    constructor
    · intro found
      split at found
      · exact ⟨behind, by omega⟩
      · cases found
    · intro bounds
      rw [if_pos (by omega)]

namespace Excerpt

variable {excerpt : Excerpt}

theorem splitLines_render (plain : excerpt.IsPlain) :
    splitLines excerpt.render.toList = [excerpt.numberedLine.toList, excerpt.caretLine.toList] := by
  have under := splitLines_of_plain (feed_not_mem_caretLine plain)
  have numbered : ∀ line ∈ [excerpt.numberedLine.toList], '\n' ∉ line := by
    simpa using feed_not_mem_numberedLine plain
  have above := splitLines_endLines numbered excerpt.caretLine.toList
  rw [under] at above
  simpa [render_eq, endLines] using above

/-- Without a label, the carets are all that follows the spaces below the line. -/
theorem printsCarets (plain : excerpt.IsPlain) (unlabelled : excerpt.label = none)
    (start : 1 ≤ excerpt.startColumn) : excerpt.PrintsCarets := by
  have row : excerpt.caretLine.toList =
      (List.replicate excerpt.gutter ' ' ++ [' ', '|', ' '] ++
        List.replicate (excerpt.startColumn - 1) ' ') ++
      List.replicate (max 1 (excerpt.endColumn - excerpt.startColumn)) '^' := by
    simp [caretLine, unlabelled, toList_spaces, carets, repeated]
  have other : '^' ∉ List.replicate excerpt.gutter ' ' ++ [' ', '|', ' '] ++
      List.replicate (excerpt.startColumn - 1) ' ' := by
    simp [List.mem_replicate]
  refine ⟨(alignRight excerpt.gutter (toString excerpt.lineNumber)).toList ++ [' ', '|', ' '],
    excerpt.caretLine.toList, ?_, fun i => ?_⟩
  · rw [splitLines_render plain]
    simp [numberedLine]
  · have width : ((alignRight excerpt.gutter (toString excerpt.lineNumber)).toList ++
        [' ', '|', ' ']).length = excerpt.gutter + 3 := by
      rw [List.length_append, length_alignRight, gutter, gutterWidth]
      simp
    rw [row, getElem?_append_replicate_iff other, width]
    simp only [List.length_append, List.length_replicate, List.length_cons, List.length_nil, IsMarked]
    constructor
    · intro bounds
      exact ⟨i + 1 - (excerpt.gutter + 3), by omega, by omega⟩
    · rintro ⟨column, place, marked⟩
      omega

end Excerpt

/-- A line whose text goes as far as the place behind `before` holds all of its characters before that
place, and goes on with those behind it. -/
theorem SourceFile.line?_of_within {file : SourceFile} {before after : List Char}
    (whole : file.text.toList = before ++ after)
    (within : ∀ line, file.line? (1 + before.count '\n') = some line →
      byteLength before ≤ file.lineStart (1 + before.count '\n') + byteLength line.toList) :
    ∃ shown, file.line? (1 + before.count '\n') = some (String.ofList (lastLine before ++ shown)) ∧
      shown <+: firstLine after := by
  have found := line?_of_append whole
  have start := lineStart_of_append whole
  have room := within _ found
  rw [String.toList_ofList] at room
  obtain ⟨shown, line⟩ : lastLine before <+: trimReturns (lastLine before ++ firstLine after) :=
    prefix_of_byteLength_le (List.prefix_append _ _) (List.rdropWhile_prefix _ _) (by omega)
  refine ⟨shown, by rw [found, line], ?_⟩
  rw [← List.prefix_append_right_inj (lastLine before), line]
  exact List.rdropWhile_prefix _ _

/-- Where line and column count every character, the excerpt of a stretch that starts on the text of its
line shows the stretch as far as the line goes. -/
theorem excerpt_points {file : SourceFile} {span : Span} (counts : span.CountsAll file.text.toList)
    (within : ∀ line, file.line? span.line = some line →
      span.start ≤ file.lineStart span.line + byteLength line.toList) :
    ∃ excerpt, Excerpt.ofSpan? file span = some excerpt ∧ excerpt.Points file span := by
  obtain ⟨before, text, after, ⟨whole, start, stop⟩, lineNumber, column⟩ := counts
  have behind : file.text.toList = before ++ (text ++ after) := by rw [whole, List.append_assoc]
  have cut : file.slice span.start span.stop = .ok (String.ofList text) := by
    rw [start, stop]
    exact SourceFile.slice_of_append whole
  rw [start, lineNumber] at within
  obtain ⟨shown, found, begins⟩ := SourceFile.line?_of_within behind within
  have lineStart := SourceFile.lineStart_of_append behind
  rw [← lineNumber] at found lineStart
  have limit : file.lineStart span.line + byteLength (lastLine before ++ shown) =
      byteLength (before ++ shown) := by
    rw [byteLength_append, byteLength_append, ← lineStart, Nat.add_assoc]
  obtain ⟨excerpt, made, line, number, startColumn, endColumn⟩ :=
    Excerpt.exists_ofSpan? found cut
  have columnsStart := startColumn.trans column
  have room : (lastLine before ++ shown).length ≤ excerpt.line.length := by
    rw [line, String.length_ofList]
  refine ⟨excerpt, made, ?_⟩
  constructor
  case line => rw [found, line]
  case number => exact number
  case column => exact startColumn
  case start => omega
  case order => exact Excerpt.ordered room columnsStart endColumn
  case stop => omega
  case marked =>
    rw [line, String.toList_ofList, Excerpt.marked room columnsStart endColumn, limit, start, stop, whole]
    exact slice?_min begins
  case printed =>
    have unlabelled := (Excerpt.ofSpan?_inv made).2.1
    exact Excerpt.printsCarets (Excerpt.isPlain_of_ofSpan? made) unlabelled (by omega)

/-- A stretch that begins behind a letter of two bytes and goes on into the next line. -/
theorem excerpt_points_across_lines :
    ∃ excerpt, Excerpt.ofSpan? ⟨"a.dan", "é: \"ü\r\nx"⟩ ⟨4, 10, 1, 4⟩ = some excerpt ∧
      excerpt.Points ⟨"a.dan", "é: \"ü\r\nx"⟩ ⟨4, 10, 1, 4⟩ := by
  have counts : Span.CountsAll ⟨4, 10, 1, 4⟩ "é: \"ü\r\nx".toList :=
    ⟨"é: ".toList, "\"ü\r\nx".toList, [], ⟨by decide, by decide, by decide⟩, by decide, by decide⟩
  have first : SourceFile.line? ⟨"a.dan", "é: \"ü\r\nx"⟩ 1 = some "é: \"ü" := by decide
  refine excerpt_points counts fun line found => ?_
  cases first.symm.trans found
  decide

end DataLexer
