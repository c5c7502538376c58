import DataLexer.Proofs.Abreast
import DataLexer.Proofs.Lines

namespace DataLexer

/-- The span starts at its true place: its line is counted by the line feeds before it, its column by the
characters behind the last of them, a byte order mark left out. -/
def Span.StartsTruly (span : Span) (text : List Char) : Prop :=
  ∃ before after, text = before ++ after ∧ span.start = byteLength before ∧
    span.line = 1 + before.count '\n' ∧ span.column = 1 + (lastLine (withoutMark before)).length

/-- The span starts on an earlier line, or on the same line in an earlier column. -/
def Span.Before (span other : Span) : Prop :=
  span.line < other.line ∨ span.line = other.line ∧ span.column < other.column

def Span.StartsAt (span : Span) (place : Position) : Prop :=
  span.start = place.offset ∧ span.line = place.line ∧ span.column = place.column

/-- Where the tokens of a stream stand, its error and the bracket that the error is about. -/
def TokenStream.spans (stream : TokenStream) : List Span :=
  stream.tokens.map (·.span) ++ stream.error.toList.flatMap fun error =>
    error.span :: (error.opener?.map (·.span)).toList

/-- The places of a text are true, in order and on the lines of its source file, and 32 bits hold their
lines and columns when they can number the characters of the text. -/
structure TruePlaces (source : String) : Prop where
  spans : ∀ span ∈ (tokenize source).spans, span.StartsTruly source.toList
  ordered : (tokenize source).tokens.Pairwise (·.span.Before ·.span)
  lines : ∀ name, ∀ span ∈ (tokenize source).spans,
    SourceFile.LiesOn ⟨name, source⟩ span.line span.start
  fits : source.toList.length < UInt32.size - 1 → ∀ span ∈ (tokenize source).spans,
    span.line < UInt32.size ∧ span.column < UInt32.size

namespace Position

theorem after_column {place : Position} (first : place.column = 1) (text : List Char) :
    (place.after text).column = 1 + (lastLine text).length := by
  induction text using List.reverseRecOn with
  | nil => exact first
  | append_singleton text c ih =>
    rw [after_append, after_singleton, next]
    by_cases feed : c = '\n'
    · simp [feed]
    · simp [feed, ih, lastLine_append_singleton, Nat.add_assoc]

theorem behind_column (text : List Char) :
    (behind text).column = 1 + (lastLine (withoutMark text)).length := by
  by_cases mark : text.head? = some '\uFEFF'
  · obtain ⟨rest, rfl⟩ := List.head?_eq_some_iff.mp mark
    have first : ({ offset := '\uFEFF'.utf8Size } : Position).column = 1 := rfl
    exact after_column first rest
  · have first : ({} : Position).column = 1 := rfl
    rw [behind_of_head mark, withoutMark_of_head mark]
    exact after_column first text

/-- Behind more text the place is a later one. -/
theorem behind_before {text more : List Char} (nonempty : more ≠ [])
    (unmarked : text = [] → more.head? ≠ some '\uFEFF') :
    (behind text).point.Before (behind (text ++ more)).point := by
  simp only [Span.Before, point, upTo, behind_line, behind_column, List.count_append,
    withoutMark_append unmarked]
  by_cases feed : '\n' ∈ more
  · have positive := List.count_pos_iff.mpr feed
    exact Or.inl (by omega)
  · have length := List.length_pos_iff.mpr nonempty
    rw [List.count_eq_zero.mpr feed, lastLine_append _ feed, List.length_append]
    exact Or.inr ⟨rfl, by omega⟩

end Position

namespace Span

variable {span other third : Span}

theorem Before.trans (first : span.Before other) (second : other.Before third) : span.Before third := by
  unfold Before at *
  omega

theorem StartsAt.truly {before after text : List Char} (split : text = before ++ after)
    (starts : span.StartsAt (Position.behind before)) : span.StartsTruly text := by
  obtain ⟨start, line, column⟩ := starts
  exact ⟨before, after, split, start.trans (Position.behind_offset before),
    line.trans (Position.behind_line before), column.trans (Position.behind_column before)⟩

theorem StartsTruly.bounded {text : List Char} (truly : span.StartsTruly text) :
    span.line ≤ 1 + text.length ∧ span.column ≤ 1 + text.length := by
  obtain ⟨before, after, rfl, _, line, column⟩ := truly
  have feeds := List.count_le_length (a := '\n') (l := before)
  have under := (lastLine_suffix (withoutMark before)).length_le
  have unmarked := (withoutMark_suffix before).length_le
  rw [List.length_append]
  omega

theorem StartsTruly.liesOn {file : SourceFile} (truly : span.StartsTruly file.text.toList) :
    file.LiesOn span.line span.start := by
  obtain ⟨before, after, split, start, line, _⟩ := truly
  rw [start, line]
  exact SourceFile.liesOn_of_append split

end Span

namespace Layout

variable {text : List Char} {past : List Token}

theorem before (layout : Layout text past) :
    ∀ token ∈ past, token.span.Before (Position.behind text).point := by
  induction layout with
  | start | mark => simp
  | @blank text past c _ space ih =>
    intro token member
    have solid : c ≠ '\uFEFF' := fun mark => absurd space (by rw [mark]; decide)
    exact (ih token member).trans (Position.behind_before (by simp) fun _ => by simpa using solid)
  | token lexeme kind _ nonempty unmarked _ ih =>
    have further := Position.behind_before nonempty unmarked
    intro token member
    rcases List.mem_cons.mp member with rfl | earlier
    · exact further
    · exact (ih token earlier).trans further

theorem increasing (layout : Layout text past) :
    past.Pairwise fun later earlier => earlier.span.Before later.span := by
  induction layout with
  | start | mark => exact .nil
  | blank _ _ ih => exact ih
  | token _ _ previous _ _ _ ih => exact List.pairwise_cons.mpr ⟨previous.before, ih⟩

theorem startsTruly (layout : Layout text past) {token : Token} (member : token ∈ past)
    (rest : List Char) : token.span.StartsTruly (text ++ rest) := by
  obtain ⟨before, after, whole, _, _, span⟩ := layout.mem member
  have split : text ++ rest = before ++ (token.text.toList ++ (after ++ rest)) := by simp [whole]
  refine Span.StartsAt.truly split ?_
  rw [span]
  exact ⟨rfl, rfl, rfl⟩

end Layout

theorem Lexer.Step.error_startsAt {lexer after : Lexer} {error : LexError}
    (step : Step lexer (.error error) after) : error.span.StartsAt lexer.settled.cursor.place :=
  ⟨step.error_start, step.error_place⟩

/-- An error is about no bracket or about the innermost open one. -/
theorem Lexer.Step.error_opener {lexer after : Lexer} {error : LexError}
    (step : Step lexer (.error error) after) {opener : Opener} (about : error.opener? = some opener) :
    lexer.frames.head?.map (·.opener) = some opener := by
  cases step with
  | unclosed _ _ opened =>
    rw [opened]
    exact about
  | unbalanced => exact about
  | unterminated | unexpected => cases about

theorem mem_of_mem_pending {past : List Token} {opener : Opener} (open' : opener ∈ pending past) :
    ∃ token ∈ past, token.span = opener.span := by
  obtain ⟨opening, member, found⟩ := List.mem_filterMap.mp open'
  obtain ⟨token, first, same⟩ := Option.bind_eq_some_iff.mp found
  obtain ⟨delimiter, _, rfl⟩ := Option.map_eq_some_iff.mp same
  exact ⟨token, (suffix_of_mem_unmatched member).mem (List.mem_of_head? first), rfl⟩

/-- What is read of a text when its tokens end, and where its error stands. -/
theorem exists_layout (source : String) : ∃ read rest past last, source.toList = read ++ rest ∧
    Layout read past ∧ (tokenize source).tokens = past.reverse ++ last ∧
    (∀ token ∈ last, token = .atEnd (Position.behind read)) ∧ last.length ≤ 1 ∧
    ∀ error, (tokenize source).error = some error → error.span.StartsAt (Position.behind read) ∧
      ∀ opener, error.opener? = some opener → ∃ token ∈ past, token.span = opener.span := by
  cases outcome : (tokenize source).error with
  | some error =>
    obtain ⟨lexer, after, reached, call⟩ := reached_of_error outcome
    have step := Lexer.step_of_next call
    have settled := (reached.standing step.running_of_error).settled
    refine ⟨_, _, _, [], settled.whole.symm, settled.layout, by simp, by simp, by simp, ?_⟩
    rintro _ ⟨⟩
    rw [← settled.place]
    refine ⟨step.error_startsAt, fun opener about => mem_of_mem_pending (List.mem_of_head? ?_)⟩
    rw [← reached.head_pending]
    exact step.error_opener about
  | none =>
    obtain ⟨past, lexer, after, reached, running, _, _, _, tokens⟩ := reached_of_complete outcome
    have settled := (reached.standing running).settled
    rw [settled.place] at tokens
    exact ⟨_, _, past, _, settled.whole.symm, settled.layout, tokens, by simp, by simp, by simp⟩

theorem startsTruly_of_mem_spans {source : String} {span : Span}
    (member : span ∈ (tokenize source).spans) : span.StartsTruly source.toList := by
  obtain ⟨read, rest, past, last, split, layout, tokens, final, _, error⟩ := exists_layout source
  have inside {token : Token} (earlier : token ∈ past) : token.span.StartsTruly source.toList := by
    rw [split]
    exact layout.startsTruly earlier rest
  rcases List.mem_append.mp member with ofToken | ofError
  · obtain ⟨token, given, rfl⟩ := List.mem_map.mp ofToken
    rw [tokens] at given
    rcases List.mem_append.mp given with earlier | atEnd
    · exact inside (List.mem_reverse.mp earlier)
    · rw [final token atEnd]
      exact Span.StartsAt.truly split ⟨rfl, rfl, rfl⟩
  · obtain ⟨reason, failed, found⟩ := List.mem_flatMap.mp ofError
    obtain ⟨starts, about⟩ := error reason (Option.mem_toList.mp failed)
    rcases List.mem_cons.mp found with rfl | opened
    · exact Span.StartsAt.truly split starts
    · obtain ⟨opener, known, rfl⟩ := Option.map_eq_some_iff.mp (Option.mem_toList.mp opened)
      obtain ⟨token, earlier, same⟩ := about opener known
      rw [← same]
      exact inside earlier

/-- The places of every text are true. -/
theorem tokenize_truePlaces (source : String) : TruePlaces source where
  spans := fun _ => startsTruly_of_mem_spans
  ordered := by
    obtain ⟨read, _, past, last, _, layout, tokens, final, one, _⟩ := exists_layout source
    rw [tokens, List.pairwise_append]
    refine ⟨List.pairwise_reverse.mpr layout.increasing, ?_, ?_⟩
    · match last, one with
      | [], _ => exact .nil
      | [token], _ => exact List.pairwise_singleton ..
    · intro earlier member token atEnd
      rw [final token atEnd]
      exact layout.before earlier (List.mem_reverse.mp member)
  lines := fun _ _ member => (startsTruly_of_mem_spans member).liesOn
  fits := by
    intro small span member
    have bounded := (startsTruly_of_mem_spans member).bounded
    omega

end DataLexer
