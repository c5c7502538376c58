import Mathlib.Data.Set.List
import DataLexer.Proofs.Abreast
import DataLexer.Proofs.Extension
import DataLexer.Proofs.RowBreaks

namespace DataLexer

/-- The brackets that tokens leave open, innermost first. -/
def leftOpen (tokens : List Token) : List Delimiter := (pending tokens.reverse).map (·.delimiter)

def closingText (delimiters : List Delimiter) : String := String.ofList (delimiters.map (·.closeChar))

/-- A text made of closing characters. -/
def IsClosing (text : String) : Prop :=
  ∀ c ∈ text.toList, ∃ delimiter : Delimiter, c = delimiter.closeChar

theorem IsClosing.exists_delimiters {text : String} (closing : IsClosing text) :
    ∃ delimiters, text = closingText delimiters := by
  have range : text.toList ∈ Set.range (List.map Delimiter.closeChar) := by
    rw [Set.range_list_map]
    intro c member
    obtain ⟨delimiter, same⟩ := closing c member
    exact ⟨delimiter, same.symm⟩
  obtain ⟨delimiters, same⟩ := range
  exact ⟨delimiters, by rw [closingText, same, String.ofList_toList]⟩

theorem Delimiter.isBlank_closeChar (delimiter : Delimiter) : isBlank delimiter.closeChar = false := by
  cases delimiter <;> decide

theorem isBlank_head_closers (delimiters : List Delimiter) :
    ∀ c, (delimiters.map (·.closeChar)).head? = some c → isBlank c = false := by
  intro c head
  rw [List.head?_map] at head
  obtain ⟨delimiter, _, rfl⟩ := Option.map_eq_some_iff.mp head
  exact delimiter.isBlank_closeChar

theorem toList_append_closingText (source : String) (delimiters : List Delimiter) :
    (source ++ "\n" ++ closingText delimiters).toList =
      source.toList ++ '\n' :: delimiters.map (·.closeChar) := by
  simp [closingText]

namespace Lexer

variable {lexer : Lexer}

/-- What stands behind blank text is ahead of the lexer past it. -/
theorem ahead_settled_of_blank (unmarked : lexer.cursor.skipByteOrderMark = lexer.cursor)
    {blank rest : List Char} (ahead : lexer.cursor.ahead = blank ++ rest)
    (space : ∀ c ∈ blank, isBlank c = true) (solid : ∀ c, rest.head? = some c → isBlank c = false) :
    lexer.settled.cursor.ahead = rest := by
  unfold settled
  rw [Cursor.ahead_advanceWhile, unmarked, ahead, List.dropWhile_append_of_pos space]
  cases rest with
  | nil => rfl
  | cons c rest => exact List.dropWhile_cons_of_neg (by simp [solid c rfl])

end Lexer

namespace Reached

variable {source whole : String} {past : List Token} {lexer : Lexer}

/-- At the end of a text all that is left is blank. -/
theorem blank_of_nothing (reached : Reached source past lexer) (running : lexer.finished = false)
    (begun : past ≠ []) (nothing : lexer.settled.cursor.ahead = []) :
    ∀ c ∈ lexer.cursor.ahead, isBlank c = true := by
  have whole := lexer.gap_append_settled
  rw [nothing, List.append_nil, (reached.standing running).skipByteOrderMark_eq begun] at whole
  rw [← whole]
  exact fun c => Lexer.isBlank_of_mem_gap

/-- A comment that ends a text is a comment before a line feed as well, perhaps without the carriage
return at its end. -/
theorem comment_before_new_line {before after : Lexer} {token : Token} {more : List Char}
    (reached : Reached whole past (before.extended ('\n' :: more)))
    (step : before.Step (.ok token) after) (comment : token.kind = .comment)
    (nothing : after.cursor.ahead = []) :
    ∃ again copy blank, Reached whole (again :: past) copy ∧ copy.finished = false ∧
      again.kind = token.kind ∧ copy.context = after.context ∧ copy.cursor.ahead = blank ++ more ∧
      ∀ c ∈ blank, isBlank c = true := by
  cases step with
  | done | last | rowBreak => cases comment
  | @lexeme c rest tail form _ _ meets spells _ passes =>
    obtain rfl : form = .comment := by
      have same := passes.form
      rw [comment] at same
      exact (Option.some.inj same).symm
    obtain rfl : rest = tail := by
      have same := passes.ahead
      rw [meets.here, nothing, List.append_nil] at same
      exact (List.cons.inj same).2
    have alone : Form.comment.Spells c (rest ++ []) rest := by rwa [List.append_nil]
    obtain ⟨text, returned, form, same, spells'⟩ := alone.comment_append_feed more
    obtain ⟨again, copy, call, passes'⟩ := meets.extended.takes spells' trivial
    have kind : again.kind = .comment := passes'.kind
    refine ⟨again, copy, returned ++ ['\n'], reached.token call, passes'.running, ?_, ?_, ?_, ?_⟩
    · rw [kind, comment]
    · rw [passes'.context, passes.context]
      simp only [Context.behind, kind, comment]
      rfl
    · have here : (before.extended ('\n' :: more)).settled.cursor.ahead = c :: (rest ++ '\n' :: more) :=
        Lexer.here_extended meets.here
      have ahead := here.symm.trans passes'.ahead
      rw [same] at ahead
      simpa using ahead.symm
    · have feed : isBlank '\n' = true := by decide
      have returned : isBlank '\r' = true := by decide
      rcases form with rfl | rfl
      · exact List.forall_mem_singleton.mpr feed
      · exact List.forall_mem_cons.mpr ⟨returned, List.forall_mem_singleton.mpr feed⟩

/-- A text that has been read to its end is read in the same way when more stands in a new line, but for
the carriage return at the end of a comment. -/
theorem before_new_line (reached : Reached source past lexer) (running : lexer.finished = false)
    (begun : past ≠ []) (nothing : lexer.settled.cursor.ahead = []) {more : List Char}
    (longer : whole.toList = source.toList ++ '\n' :: more)
    (solid : ∀ c, more.head? = some c → isBlank c = false) :
    ∃ again copy, Reached whole again copy ∧ copy.finished = false ∧
      again.map (·.kind) = past.map (·.kind) ∧ copy.context = lexer.context ∧
      copy.settled.cursor.ahead = more := by
  have left := reached.blank_of_nothing running begun nothing
  cases reached with
  | start => exact absurd rfl begun
  | failed _ call => exact absurd (Lexer.step_of_next call).finished_of_error (by simp [running])
  | @token past before token _ earlier call =>
    have step := Lexer.step_of_next call
    have goesOn := step.finished.symm.trans running
    have ran := step.running_of_token goesOn
    have shorter := Lexer.ahead_next_lt call goesOn
    have earlier' := earlier.extended longer ran fun none => by simp [none] at shorter
    by_cases atEnd : token.kind = .comment ∧ lexer.cursor.ahead = []
    · obtain ⟨again, copy, blank, copied, ran', kind, context, ahead, space⟩ :=
        earlier'.comment_before_new_line step atEnd.1 atEnd.2
      have unmarked := (copied.standing ran').skipByteOrderMark_eq (by simp)
      refine ⟨_, copy, copied, ran', by simp [kind], context, ?_⟩
      exact Lexer.ahead_settled_of_blank unmarked ahead space solid
    · have call' : (before.extended ('\n' :: more)).next = (.ok token, lexer.extended ('\n' :: more)) :=
        Lexer.next_extended call goesOn fun comment none => absurd ⟨comment, none⟩ atEnd
      have copied := earlier'.token call'
      have unmarked := (copied.standing running).skipByteOrderMark_eq (by simp)
      have ahead : (lexer.extended ('\n' :: more)).cursor.ahead =
          lexer.cursor.ahead ++ ['\n'] ++ more := by
        simp [Lexer.extended, Cursor.extended]
      have blank : ∀ c ∈ lexer.cursor.ahead ++ ['\n'], isBlank c = true :=
        List.forall_mem_append.mpr ⟨left, List.forall_mem_singleton.mpr (by decide)⟩
      exact ⟨_, _, copied, running, rfl, rfl, Lexer.ahead_settled_of_blank unmarked ahead blank solid⟩

/-- A closing bracket that fits is read where it stands: no row ends before it. -/
theorem closes (reached : Reached source past lexer) (running : lexer.finished = false)
    {delimiter : Delimiter} {rest : List Char}
    (here : lexer.settled.cursor.ahead = delimiter.closeChar :: rest)
    (fits : lexer.Fits (.closing delimiter)) (solid : ∀ c, rest.head? = some c → isBlank c = false) :
    ∃ token after, Reached source (token :: past) after ∧ after.finished = false ∧
      token.kind = delimiter.closeKind ∧ after.frames = lexer.frames.tail ∧
      after.settled.cursor.ahead = rest := by
  have unbroken : ¬ lexer.BreaksBefore delimiter.closeChar rest := by
    rintro ⟨_, ends⟩
    obtain ⟨⟨frame, innermost, role⟩, other, _⟩ := Lexer.rowEnds_iff.mp ends
    have square := reached.fits_of_rows innermost role
    obtain rfl : delimiter = .array := Option.some.inj (fits.symm.trans square)
    exact other rfl
  have meets : lexer.Meets delimiter.closeChar rest := ⟨running, here, unbroken⟩
  have spells : (Form.closing delimiter).Spells delimiter.closeChar rest [] := ⟨rfl, rfl⟩
  obtain ⟨token, after, call, passes⟩ := meets.takes spells fits
  have behind := reached.token call
  have kind : token.kind = delimiter.closeKind := passes.kind
  have ahead : after.cursor.ahead = [] ++ rest := by
    have same := here.symm.trans passes.ahead
    exact (List.cons.inj same).2.symm
  have unmarked := (behind.standing passes.running).skipByteOrderMark_eq (by simp)
  refine ⟨token, after, behind, passes.running, kind, ?_, ?_⟩
  · have frames := congrArg Context.frames passes.context
    have closed : lexer.context.behind token = lexer.context.closed := by
      cases delimiter <;> simp [Context.behind, kind, Delimiter.closeKind]
    rw [closed] at frames
    exact frames
  · exact Lexer.ahead_settled_of_blank unmarked ahead (by simp) solid

/-- Closing brackets up to the end of a text complete it exactly when they close what is open, innermost
first. -/
theorem completes_iff (reached : Reached source past lexer) (running : lexer.finished = false)
    {delimiters : List Delimiter}
    (here : lexer.settled.cursor.ahead = delimiters.map (·.closeChar)) :
    (DataLexer.tokenize source).error = none ↔ delimiters = lexer.frames.map (·.opener.delimiter) := by
  induction delimiters generalizing past lexer with
  | nil =>
    cases frames : lexer.frames with
    | nil =>
      have last := Lexer.drain_of_token (Lexer.next_of_closed running here frames)
      simp [reached.tokenize running, last, Token.isEof, Token.atEnd]
    | cons frame outer =>
      obtain ⟨span, _, call⟩ := Lexer.next_of_unclosed running here (by simp [frames])
      simp [reached.tokenize_of_error call]
  | cons delimiter delimiters ih =>
    by_cases fits : lexer.Fits (.closing delimiter)
    · obtain ⟨token, after, behind, ran, _, frames, ahead⟩ :=
        reached.closes running here fits (isBlank_head_closers delimiters)
      rw [ih behind ran ahead, frames]
      cases opened : lexer.frames with
      | nil => simp [Lexer.Fits, opened] at fits
      | cons frame outer =>
        have same : frame.opener.delimiter = delimiter := by simpa [Lexer.Fits, opened] using fits
        simp [same]
    · have stray : MeetsStray source past delimiter.closeChar := by
        refine ⟨lexer, _, delimiter, reached, running, here, rfl, ?_⟩
        rwa [reached.fits_iff] at fits
      obtain ⟨span, failed⟩ := stray.error
      have different : delimiter :: delimiters ≠ lexer.frames.map (·.opener.delimiter) := by
        intro same
        refine fits ?_
        have first := congrArg List.head? same
        rw [List.head?_map] at first
        exact first.symm
      simp [failed, different]

theorem kinds_of_closers (reached : Reached source past lexer) (running : lexer.finished = false)
    {delimiters : List Delimiter}
    (here : lexer.settled.cursor.ahead = delimiters.map (·.closeChar))
    (opened : lexer.frames.map (·.opener.delimiter) = delimiters) :
    (DataLexer.tokenize source).kinds =
      past.reverse.map (·.kind) ++ delimiters.map (·.closeKind) ++ [.eof] := by
  induction delimiters generalizing past lexer with
  | nil =>
    have closed := List.map_eq_nil_iff.mp opened
    have last := Lexer.drain_of_token (Lexer.next_of_closed running here closed)
    simp [TokenStream.kinds, reached.tokenize running, last, Token.isEof, Token.atEnd]
  | cons delimiter delimiters ih =>
    have fits : lexer.Fits (.closing delimiter) := by
      rw [Lexer.Fits, ← List.head?_map, opened]
      rfl
    obtain ⟨token, after, behind, ran, kind, frames, ahead⟩ :=
      reached.closes running here fits (isBlank_head_closers delimiters)
    have outer : after.frames.map (·.opener.delimiter) = delimiters := by
      rw [frames, List.map_tail, opened]
      rfl
    rw [ih behind ran ahead outer]
    simp [kind]

/-- Closing brackets in a new line below a text that has been read to its end complete it exactly when
they close what is open, innermost first. -/
theorem completes_in_new_line_iff (reached : Reached source past lexer) (running : lexer.finished = false)
    (begun : past ≠ []) (nothing : lexer.settled.cursor.ahead = []) (delimiters : List Delimiter) :
    (DataLexer.tokenize (source ++ "\n" ++ closingText delimiters)).error = none ↔
      delimiters = lexer.frames.map (·.opener.delimiter) := by
  obtain ⟨_, copy, copied, ran, _, context, ahead⟩ :=
    reached.before_new_line running begun nothing (toList_append_closingText source delimiters)
      (isBlank_head_closers delimiters)
  have frames : copy.frames = lexer.frames := congrArg Context.frames context
  rw [copied.completes_iff ran ahead, frames]

theorem kinds_in_new_line (reached : Reached source past lexer) (running : lexer.finished = false)
    (begun : past ≠ []) (nothing : lexer.settled.cursor.ahead = []) {delimiters : List Delimiter}
    (opened : lexer.frames.map (·.opener.delimiter) = delimiters) :
    (DataLexer.tokenize (source ++ "\n" ++ closingText delimiters)).kinds =
      past.reverse.map (·.kind) ++ delimiters.map (·.closeKind) ++ [.eof] := by
  obtain ⟨_, copy, copied, ran, kinds, context, ahead⟩ :=
    reached.before_new_line running begun nothing (toList_append_closingText source delimiters)
      (isBlank_head_closers delimiters)
  have frames : copy.frames = lexer.frames := congrArg Context.frames context
  rw [copied.kinds_of_closers ran ahead (by rw [frames, opened]), List.map_reverse, kinds,
    List.map_reverse]

end Reached

/-- The advice to close what is open helps: the closing characters in a new line, innermost first,
complete the text without a row break, and no other closing characters do. -/
theorem tokenize_closed {source : String} {span : Span} {opener : Option Opener}
    (failed : (tokenize source).error = some (.unbalancedDelimiter none span opener)) :
    (tokenize (source ++ "\n" ++ closingText (leftOpen (tokenize source).tokens))).error = none ∧
      (tokenize (source ++ "\n" ++ closingText (leftOpen (tokenize source).tokens))).kinds =
        (tokenize source).kinds ++ (leftOpen (tokenize source).tokens).map (·.closeKind) ++ [.eof] ∧
      ∀ text, IsClosing text → (tokenize (source ++ "\n" ++ text)).error = none →
        text = closingText (leftOpen (tokenize source).tokens) := by
  obtain ⟨lexer, after, reached, call⟩ := reached_of_error failed
  have step := Lexer.step_of_next call
  have running := step.running_of_error
  obtain ⟨nothing, opened⟩ : lexer.settled.cursor.ahead = [] ∧ lexer.frames ≠ [] := by
    cases step with
    | unclosed _ nothing opened => exact ⟨nothing, by simp [opened]⟩
  have begun : (tokenize source).tokens.reverse ≠ [] := by
    intro none
    have frames := reached.pending
    rw [none] at frames
    exact opened (List.map_eq_nil_iff.mp frames)
  have frames : lexer.frames.map (·.opener.delimiter) = leftOpen (tokenize source).tokens := by
    rw [leftOpen, ← reached.pending, List.map_map]
    rfl
  have completes := reached.completes_in_new_line_iff running begun nothing
  rw [frames] at completes
  refine ⟨(completes _).mpr rfl, ?_, ?_⟩
  · rw [reached.kinds_in_new_line running begun nothing frames, List.reverse_reverse]
    rfl
  · intro text closing complete
    obtain ⟨delimiters, rfl⟩ := closing.exists_delimiters
    rw [(completes delimiters).mp complete]

/-- The line feed takes the carriage return at the end of the comment, and the bracket is closed behind
them. -/
theorem tokenize_closed_below_comment :
    (tokenize "[ # c\r").error =
        some (.unbalancedDelimiter none ⟨6, 6, 1, 7⟩ (some ⟨.array, ⟨0, 1, 1, 1⟩⟩)) ∧
      (tokenize ("[ # c\r" ++ "\n" ++ "]")).error = none ∧
      (tokenize ("[ # c\r" ++ "\n" ++ "]")).kinds = [.arrayOpen, .comment, .arrayClose, .eof] := by
  have opens : (Lexer.ofText "[ # c\r").next.1 = .ok ⟨.arrayOpen, "[", ⟨0, 1, 1, 1⟩⟩ := by decide
  have comment : (Lexer.ofText "[ # c\r").next.2.next.1 = .ok ⟨.comment, "# c\r", ⟨2, 6, 1, 3⟩⟩ := by
    decide
  have stops : (Lexer.ofText "[ # c\r").next.2.next.2.next.1 =
      .error (.unbalancedDelimiter none ⟨6, 6, 1, 7⟩ (some ⟨.array, ⟨0, 1, 1, 1⟩⟩)) := by
    decide
  have stream : tokenize "[ # c\r" =
      ⟨[⟨.arrayOpen, "[", ⟨0, 1, 1, 1⟩⟩, ⟨.comment, "# c\r", ⟨2, 6, 1, 3⟩⟩],
        some (.unbalancedDelimiter none ⟨6, 6, 1, 7⟩ (some ⟨.array, ⟨0, 1, 1, 1⟩⟩))⟩ := by
    rw [tokenize, Lexer.drain_of_next opens, Lexer.drain_of_next comment,
      Lexer.drain_of_error (Prod.ext stops rfl)]
    rfl
  have failed : (tokenize "[ # c\r").error =
      some (.unbalancedDelimiter none ⟨6, 6, 1, 7⟩ (some ⟨.array, ⟨0, 1, 1, 1⟩⟩)) := by
    rw [stream]
  have closers : closingText (leftOpen (tokenize "[ # c\r").tokens) = "]" := by
    rw [stream]
    decide
  obtain ⟨complete, kinds, _⟩ := tokenize_closed failed
  rw [closers] at complete kinds
  refine ⟨failed, complete, kinds.trans ?_⟩
  rw [stream]
  decide

end DataLexer
