import DataLexer.Proofs.Faults
import DataLexer.Proofs.Requests
import DataLexer.Proofs.Truncation

namespace DataLexer

/-- The tokens less a row break at their end. -/
def withoutLastBreak (tokens : List Token) : List Token :=
  if tokens.getLast?.any (·.kind = .newline) then tokens.dropLast else tokens

/-- A text with these tokens, its end aside, and with no fault but an open bracket. -/
structure SoundText (source : String) (tokens : List Token) : Prop where
  items : (tokenize source).items = tokens
  outcome : ∀ error, (tokenize source).error = some error →
    ∃ span opener, error = .unbalancedDelimiter none span opener

/-- A source with an error: what is read up to the end of its last token, blank text, the text that the
error is about, and the rest. -/
structure FirstDefect (source : String) (error : LexError) (read gap text rest : List Char) : Prop where
  whole : source.toList = read ++ gap ++ text ++ rest
  last : ∀ token, (tokenize source).tokens.getLast? = some token → token.span.stop = byteLength read
  first : (tokenize source).tokens = [] → read = [] ∨ read = ['\uFEFF']
  blank : ∀ c ∈ gap, isBlank c = true
  start : error.span.start = byteLength (read ++ gap)
  stop : error.span.stop = byteLength (read ++ gap ++ text)
  marks : error.Marks text rest
  sound : SoundText (String.ofList (read ++ gap)) (withoutLastBreak (tokenize source).tokens)

theorem withoutLastBreak_reverse_of_break {token : Token} {past : List Token}
    (kind : token.kind = .newline) : withoutLastBreak (token :: past).reverse = past.reverse := by
  simp [withoutLastBreak, kind]

theorem withoutLastBreak_reverse_of_ne {past : List Token}
    (unbroken : past.head?.map (·.kind) ≠ some .newline) :
    withoutLastBreak past.reverse = past.reverse := by
  cases past with
  | nil => rfl
  | cons token past =>
    have other : token.kind ≠ .newline := by simpa using unbroken
    simp [withoutLastBreak, other]

/-- Behind the last token of a text only blank text stands, and before it a byte order mark may. -/
theorem Layout.gap {text : List Char} {past : List Token} (layout : Layout text past) :
    ∃ read gap, text = read ++ gap ∧ (∀ c ∈ gap, isBlank c = true) ∧
      (past = [] → read = [] ∨ read = ['\uFEFF']) ∧
      ∀ token, past.head? = some token → token.span.stop = byteLength read := by
  induction layout with
  | start => exact ⟨[], [], rfl, by simp, fun _ => Or.inl rfl, by simp⟩
  | mark => exact ⟨['\uFEFF'], [], rfl, by simp, fun _ => Or.inr rfl, by simp⟩
  | @blank text past c _ space ih =>
    obtain ⟨read, gap, rfl, blank, first, last⟩ := ih
    refine ⟨read, gap ++ [c], by simp, ?_, first, last⟩
    exact List.forall_mem_append.mpr ⟨blank, List.forall_mem_singleton.mpr space⟩
  | @token text past lexeme kind =>
    refine ⟨text ++ lexeme, [], by simp, by simp, by simp, ?_⟩
    rintro token ⟨⟩
    exact Position.behind_offset (text ++ lexeme)

/-- No colon is next where the lexer stops: it would be read. -/
theorem Lexer.Step.not_colonNext {lexer after : Lexer} {error : LexError}
    (step : Step lexer (.error error) after) : ¬ ColonNext lexer.settled.cursor.ahead := by
  rw [colonNext_of_solid fun c => lexer.solid_settled]
  cases step with
  | unclosed _ nothing => simp [nothing]
  | @unbalanced c rest delimiter meets closing =>
    rw [meets.here, closing]
    cases delimiter <;> simp [Delimiter.closeChar]
  | unterminated meets => simp [meets.here]
  | @unexpected c rest meets reading =>
    rw [meets.here]
    rintro ⟨⟩
    cases reading

namespace Reached

variable {source : String} {past : List Token} {lexer after : Lexer} {error : LexError}

/-- A text that is read up to its end has the tokens given so far, and at most a bracket left open. -/
theorem sound_of_nothing (reached : Reached source past lexer) (running : lexer.finished = false)
    (nothing : lexer.settled.cursor.ahead = []) : SoundText source past.reverse := by
  have given := (reached.standing running).layout.filter_isEof
  by_cases closed : lexer.frames = []
  · have last := Lexer.drain_of_token (Lexer.next_of_closed running nothing closed)
    have stream := reached.tokenize running
    rw [last] at stream
    refine ⟨?_, by simp [stream, Token.isEof, Token.atEnd]⟩
    rw [stream, TokenStream.items, List.filter_append, given]
    simp [Token.isEof, Token.atEnd]
  · obtain ⟨span, _, call⟩ := Lexer.next_of_unclosed running nothing closed
    have stream := reached.tokenize_of_error call
    refine ⟨by rw [stream]; exact given, ?_⟩
    rw [stream]
    rintro _ ⟨⟩
    exact ⟨span, _, rfl⟩

/-- The text before a solid character, cut off there, is read as it was. -/
theorem sound_before (reached : Reached source past lexer) (running : lexer.finished = false)
    (noColon : ¬ ColonNext lexer.settled.cursor.ahead)
    (inside : past.head?.map (·.kind) = some .newline →
      lexer.settled.cursor.ahead.length < lexer.cursor.ahead.length) :
    SoundText (String.ofList lexer.settled.cursor.read) past.reverse := by
  have whole := (reached.standing running).settled.whole.symm
  rw [← String.toList_ofList (l := lexer.settled.cursor.read)] at whole
  have room : lexer.settled.cursor.ahead.length ≤ lexer.cursor.ahead.length :=
    Nat.le_trans (Lexer.ahead_advanceWhile_le _ isBlank) (Lexer.ahead_skipByteOrderMark_le lexer.cursor)
  obtain ⟨shorter, cut, same⟩ :=
    reached.truncated whole (fun c => lexer.solid_settled) noColon running room inside
  have left : (shorter.extended lexer.settled.cursor.ahead).settled.cursor.ahead =
      lexer.settled.cursor.ahead := by
    rw [← same]
  have nothing := Lexer.nothing_truncated left
  have running' : shorter.finished = false := by rwa [same] at running
  exact cut.sound_of_nothing running' nothing

/-- The text before an error is sound. A row break before the error is due to it and falls away. -/
theorem sound_before_error (reached : Reached source past lexer) (step : lexer.Step (.error error) after) :
    SoundText (String.ofList lexer.settled.cursor.read) (withoutLastBreak past.reverse) := by
  have running := step.running_of_error
  by_cases kind : past.head?.map (·.kind) = some .newline
  · obtain ⟨feed, last, newline⟩ := Option.map_eq_some_iff.mp kind
    obtain ⟨past, rfl⟩ := List.head?_eq_some_iff.mp last
    obtain ⟨before, earlier, ran, broke, goesOn⟩ := reached.before running
    obtain ⟨c, rest, _, _, here, _, gap, _, _, _, rfl⟩ := broke.rowBreak_inv newline
    -- behind the row break the lexer stands where it stood settled before it
    have started : before.settled.endRow.cursor.Started := (earlier.standing ran).started
    have same := (Lexer.settled_of_started started here (Lexer.isBlank_head_settled here)).2
    have noColon := step.not_colonNext
    rw [same] at noColon ⊢
    rw [withoutLastBreak_reverse_of_break newline]
    refine earlier.sound_before ran noColon fun _ => ?_
    have skipped := congrArg List.length before.gap_append_settled
    have left := Lexer.ahead_skipByteOrderMark_le before.cursor
    rw [List.length_append, gap, List.length_append, List.length_cons] at skipped
    omega
  · rw [withoutLastBreak_reverse_of_ne kind]
    exact reached.sound_before running step.not_colonNext fun newline => absurd newline kind

end Reached

/-- The error of a text is its first defect: it is found where it stands, and the text before it is
sound. -/
theorem tokenize_firstDefect {source : String} {error : LexError}
    (failed : (tokenize source).error = some error) :
    ∃ read gap text rest, FirstDefect source error read gap text rest := by
  obtain ⟨lexer, after, reached, call⟩ := reached_of_error failed
  have step := Lexer.step_of_next call
  have standing := reached.standing step.running_of_error
  have whole := standing.settled.whole.symm
  obtain ⟨text, rest, ahead, marks, span⟩ := step.marks
  obtain ⟨read, gap, split, blank, first, last⟩ := standing.settled.layout.gap
  have sound := reached.sound_before_error step
  rw [List.reverse_reverse, split] at sound
  rw [ahead, split, ← List.append_assoc] at whole
  rw [standing.started.after ahead, standing.started.place, split] at span
  refine ⟨read, gap, text, rest, whole, ?_, ?_, blank, ?_, ?_, marks, sound⟩
  · intro token given
    exact last token (by rwa [List.head?_reverse])
  · intro none
    exact first (by rw [none]; rfl)
  · rw [span]
    exact Position.behind_offset _
  · rw [span]
    exact Position.behind_offset _

/-- A dot that no digit follows stands behind the number, in a bracket that is left open. -/
theorem firstDefect_behind_number :
    (tokenize "[ 1.").error = some (.unexpectedCharacter '.' ⟨3, 4, 1, 4⟩) ∧
      ∃ read gap text rest,
        FirstDefect "[ 1." (.unexpectedCharacter '.' ⟨3, 4, 1, 4⟩) read gap text rest := by
  have opens : (Lexer.ofText "[ 1.").next.1 = .ok ⟨.arrayOpen, "[", ⟨0, 1, 1, 1⟩⟩ := by decide
  have number : (Lexer.ofText "[ 1.").next.2.next.1 = .ok ⟨.number, "1", ⟨2, 3, 1, 3⟩⟩ := by decide
  have stops : (Lexer.ofText "[ 1.").next.2.next.2.next.1 =
      .error (.unexpectedCharacter '.' ⟨3, 4, 1, 4⟩) := by
    decide
  have failed : (tokenize "[ 1.").error = some (.unexpectedCharacter '.' ⟨3, 4, 1, 4⟩) := by
    rw [tokenize, Lexer.drain_of_next opens, Lexer.drain_of_next number,
      Lexer.drain_of_error (Prod.ext stops rfl)]
    rfl
  exact ⟨failed, tokenize_firstDefect failed⟩

end DataLexer
