import DataLexer.Lexer
import DataLexer.Proofs.Place
import DataLexer.Proofs.Reading

namespace DataLexer

/-- What the tokens read so far leave behind: the brackets that are open, innermost first, and how much
of a table head has just been read. -/
structure Context where
  frames : List Frame := []
  head : TableHead := .none

namespace Context

def startRow (context : Context) : List Frame := context.frames.modifyHead Frame.startRow

def opened (context : Context) (delimiter : Delimiter) (span : Span) : Context where
  frames := ⟨⟨delimiter, span⟩, context.head.roleOf delimiter⟩ :: context.startRow

def closed (context : Context) : Context where
  frames := context.frames.tail
  head := if context.frames.head?.any (·.role = .columns) then .columns else .none

/-- What is open behind a token. -/
def behind (context : Context) (token : Token) : Context :=
  match token.kind with
  | .comment | .eof => context
  | .newline => { context with frames := context.frames.modifyHead Frame.endRow }
  | .blockOpen => context.opened .block token.span
  | .arrayOpen => context.opened .array token.span
  | .parenOpen => context.opened .paren token.span
  | .blockClose | .arrayClose | .parenClose => context.closed
  | .tableKeyword => ⟨context.startRow, .keyword⟩
  | _ => ⟨context.startRow, .none⟩

end Context

/-- The form of the lexemes of a kind; row breaks and the end of the text have none of their own. -/
def TokenKind.form? : TokenKind → Option Form
  | comment => some .comment
  | string => some .string
  | number => some .number
  | key | boolean | identifier | tableKeyword => some .name
  | colon => some .colon
  | comma => some .comma
  | blockOpen => some (.opening .block)
  | arrayOpen => some (.opening .array)
  | parenOpen => some (.opening .paren)
  | blockClose => some (.closing .block)
  | arrayClose => some (.closing .array)
  | parenClose => some (.closing .paren)
  | newline | eof => none

namespace Lexer

def context (lexer : Lexer) : Context := ⟨lexer.frames, lexer.head⟩

/-- The lexer past the byte order mark and the blank text ahead. -/
def settled (lexer : Lexer) : Lexer :=
  { lexer with cursor := lexer.cursor.skipByteOrderMark.advanceWhile isBlank }

/-- The blank text ahead. -/
def gap (lexer : Lexer) : List Char := lexer.cursor.skipByteOrderMark.ahead.takeWhile isBlank

/-- The blank text ahead holds the end of a row. -/
def BreaksBefore (lexer : Lexer) (c : Char) (rest : List Char) : Prop :=
  '\n' ∈ lexer.gap ∧ lexer.rowEnds c rest = true

/-- A lexeme, or what is none, starts behind the blank text ahead. -/
structure Meets (lexer : Lexer) (c : Char) (rest : List Char) : Prop where
  running : lexer.finished = false
  here : lexer.settled.cursor.ahead = c :: rest
  unbroken : ¬ lexer.BreaksBefore c rest

/-- A closing bracket fits when it closes the innermost open one; every other lexeme does. -/
def Fits (lexer : Lexer) : Form → Prop
  | .closing delimiter => lexer.frames.head?.map (·.opener.delimiter) = some delimiter
  | _ => True

/-- The kind of a lexeme with the text `rest` behind it. -/
def kindOf (lexer : Lexer) (lexeme rest : List Char) : Form → TokenKind
  | .comment => .comment
  | .string => .string
  | .number => .number
  | .name => lexer.nameKind lexeme rest
  | .colon => .colon
  | .comma => .comma
  | .opening delimiter => delimiter.openKind
  | .closing delimiter => delimiter.closeKind

/-- The lexer takes the lexeme `c :: tail` behind the blank text ahead. -/
structure Passes (lexer : Lexer) (form : Form) (c : Char) (tail : List Char) (token : Token)
    (after : Lexer) : Prop where
  ahead : lexer.settled.cursor.ahead = c :: tail ++ after.cursor.ahead
  cursor : after.cursor = lexer.settled.cursor.advanceBy (tail.length + 1)
  running : after.finished = false
  kind : token.kind = lexer.kindOf (c :: tail) after.cursor.ahead form
  text : token.text = String.ofList (c :: tail)
  span : token.span = lexer.settled.cursor.place.upTo after.cursor.place
  context : after.context = lexer.context.behind token

/-- What a call of the lexer can give, and the lexer behind it. -/
inductive Step (lexer : Lexer) : Except LexError Token → Lexer → Prop
  | done : lexer.finished = true → Step lexer (.ok (.atEnd lexer.cursor.place)) lexer
  | last : lexer.finished = false → lexer.settled.cursor.ahead = [] → lexer.frames = [] →
      Step lexer (.ok (.atEnd lexer.settled.cursor.place)) { lexer.settled with finished := true }
  | unclosed {frame outer} : lexer.finished = false → lexer.settled.cursor.ahead = [] →
      lexer.frames = frame :: outer →
      Step lexer (.error (.unbalancedDelimiter none lexer.settled.cursor.place.point frame.opener))
        { lexer.settled with finished := true }
  | rowBreak {c rest before after span} : lexer.finished = false →
      lexer.settled.cursor.ahead = c :: rest → lexer.rowEnds c rest = true →
      lexer.gap = before ++ '\n' :: after → '\n' ∉ before →
      span = (lexer.cursor.skipByteOrderMark.place.after before).upTo
        (lexer.cursor.skipByteOrderMark.place.after (before ++ ['\n'])) →
      Step lexer (.ok ⟨.newline, "\n", span⟩) lexer.settled.endRow
  | lexeme {c rest tail form token after} : lexer.Meets c rest → form.Spells c rest tail →
      lexer.Fits form → lexer.Passes form c tail token after → Step lexer (.ok token) after
  | unbalanced {c rest delimiter} : lexer.Meets c rest → c = delimiter.closeChar →
      ¬ lexer.Fits (.closing delimiter) →
      Step lexer
        (.error (.unbalancedDelimiter (some c)
          (lexer.settled.cursor.place.upTo (lexer.settled.cursor.place.after [c]))
          (lexer.frames.head?.map (·.opener))))
        { lexer.settled with cursor := lexer.settled.cursor.advance, finished := true }
  | unterminated {rest tail} : lexer.Meets '"' rest → Reading.stringTail rest = (tail, false) →
      Step lexer
        (.error (.unterminatedString
          (lexer.settled.cursor.place.upTo (lexer.settled.cursor.place.after ('"' :: tail)))))
        { lexer.settled with
          cursor := lexer.settled.cursor.advanceBy (tail.length + 1), finished := true }
  | unexpected {c rest} : lexer.Meets c rest → Reading.ofText c rest = .unexpected →
      Step lexer
        (.error (.unexpectedCharacter c
          ⟨lexer.settled.cursor.place.offset, lexer.settled.cursor.place.offset + c.utf8Size,
            lexer.settled.cursor.place.line, lexer.settled.cursor.place.column⟩))
        { lexer.settled with finished := true }

@[simp] theorem frames_settled (lexer : Lexer) : lexer.settled.frames = lexer.frames := rfl

theorem startRow_eq (lexer : Lexer) : lexer.startRow = lexer.context.startRow := by
  unfold startRow Context.startRow context
  cases lexer.frames <;> rfl

theorem context_endRow (lexer : Lexer) (span : Span) :
    lexer.settled.endRow.context = lexer.context.behind ⟨.newline, "\n", span⟩ := by
  unfold endRow context Context.behind settled
  cases lexer.frames <;> rfl

theorem lineFeed?_eq_some {cursor : Cursor} {span : Span} (found : cursor.lineFeed? = some span) :
    ∃ before after, cursor.ahead.takeWhile isBlank = before ++ '\n' :: after ∧ '\n' ∉ before ∧
      span = (cursor.place.after before).upTo (cursor.place.after (before ++ ['\n'])) := by
  unfold Cursor.lineFeed? at found
  dsimp only at found
  split at found
  · rename_i member
    obtain ⟨before, after, gap, fresh⟩ := List.eq_append_cons_of_mem member
    have kept : ∀ c ∈ before, (c != '\n') = true := by
      rintro c inside
      simpa using ne_of_mem_of_not_mem inside fresh
    have first : (cursor.ahead.takeWhile isBlank).takeWhile (· != '\n') = before := by
      simp [gap, List.takeWhile_append_of_pos kept]
    rw [first] at found
    exact ⟨before, after, gap, fresh, by rw [Position.after_append]; exact (Option.some.inj found).symm⟩
  · cases found

theorem lineFeed?_isSome {cursor : Cursor} (member : '\n' ∈ cursor.ahead.takeWhile isBlank) :
    ∃ span, cursor.lineFeed? = some span :=
  ⟨_, if_pos member⟩

theorem lineFeed?_eq_none {cursor : Cursor} (fresh : '\n' ∉ cursor.ahead.takeWhile isBlank) :
    cursor.lineFeed? = none :=
  if_neg fresh

theorem next_of_finished {lexer : Lexer} (ended : lexer.finished = true) :
    lexer.next = (.ok (.atEnd lexer.cursor.place), lexer) :=
  if_pos ended

theorem next_of_running {lexer : Lexer} (running : lexer.finished = false) :
    lexer.next =
      match lexer.settled.cursor.ahead with
      | [] => lexer.settled.finish
      | c :: rest =>
        match lexer.cursor.skipByteOrderMark.lineFeed? with
        | some span =>
          if lexer.rowEnds c rest then (.ok ⟨.newline, "\n", span⟩, lexer.settled.endRow)
          else lexer.settled.scan c rest
        | none => lexer.settled.scan c rest :=
  if_neg (by simp [running])

theorem next_of_nothing {lexer : Lexer} (running : lexer.finished = false)
    (nothing : lexer.settled.cursor.ahead = []) : lexer.next = lexer.settled.finish := by
  rw [next_of_running running, nothing]

theorem next_of_break {lexer : Lexer} {c : Char} {rest : List Char} {span : Span}
    (running : lexer.finished = false) (here : lexer.settled.cursor.ahead = c :: rest)
    (found : lexer.cursor.skipByteOrderMark.lineFeed? = some span) (ends : lexer.rowEnds c rest = true) :
    lexer.next = (.ok ⟨.newline, "\n", span⟩, lexer.settled.endRow) := by
  rw [next_of_running running, here]
  simp only [found, ends, if_true]

theorem Meets.next {lexer : Lexer} {c : Char} {rest : List Char} (meets : lexer.Meets c rest) :
    lexer.next = lexer.settled.scan c rest := by
  rw [next_of_running meets.running, meets.here]
  by_cases member : '\n' ∈ lexer.gap
  · obtain ⟨span, found⟩ := lineFeed?_isSome member
    have goesOn : ¬ lexer.rowEnds c rest = true := fun ends => meets.unbroken ⟨member, ends⟩
    simp only [found, if_neg goesOn]
  · simp only [lineFeed?_eq_none member]

theorem BreaksBefore.next {lexer : Lexer} {c : Char} {rest : List Char}
    (breaks : lexer.BreaksBefore c rest) (running : lexer.finished = false)
    (here : lexer.settled.cursor.ahead = c :: rest) :
    ∃ span, lexer.next = (.ok ⟨.newline, "\n", span⟩, lexer.settled.endRow) := by
  obtain ⟨span, found⟩ := lineFeed?_isSome breaks.1
  exact ⟨span, next_of_break running here found breaks.2⟩

theorem nameKind_cases (lexer : Lexer) (name rest : List Char) :
    lexer.nameKind name rest = .key ∨ lexer.nameKind name rest = .tableKeyword ∨
      lexer.nameKind name rest = .boolean ∨ lexer.nameKind name rest = .identifier := by
  unfold nameKind TokenKind.ofWord?
  grind

@[simp] theorem form?_kindOf (lexer : Lexer) (lexeme rest : List Char) (form : Form) :
    (lexer.kindOf lexeme rest form).form? = some form := by
  cases form with
  | name =>
    rcases lexer.nameKind_cases lexeme rest with kind | kind | kind | kind <;>
      simp [kindOf, kind, TokenKind.form?]
  | opening delimiter | closing delimiter => cases delimiter <;> rfl
  | _ => rfl

/-- What `take` leaves open is what the token it gives leaves open. -/
theorem accept_passes {lexer : Lexer} {form : Form} {c : Char} {tail after : List Char}
    {kind : TokenKind} {frames : List Frame} {head : TableHead} (running : lexer.finished = false)
    (here : lexer.settled.cursor.ahead = c :: tail ++ after)
    (same : kind = lexer.kindOf (c :: tail) after form)
    (context : (⟨frames, head⟩ : Context) =
      lexer.context.behind ⟨kind, String.ofList (c :: tail),
        lexer.settled.cursor.place.upTo (lexer.settled.cursor.advanceBy (tail.length + 1)).place⟩) :
    ∃ token next, lexer.settled.accept (tail.length + 1) kind frames head = (.ok token, next) ∧
      lexer.Passes form c tail token next := by
  have taken : lexer.settled.cursor.ahead.take (tail.length + 1) = c :: tail := by
    rw [here]
    simp
  have left : lexer.settled.cursor.ahead.drop (tail.length + 1) = after := by
    rw [here]
    simp
  refine ⟨_, _, rfl, ?_⟩
  constructor
  · rw [Cursor.ahead_advanceBy, left, here]
  · rfl
  · exact running
  · simp only [Cursor.ahead_advanceBy, left, same]
  · simp only [taken]
  · rfl
  · rw [taken]
    exact context

theorem behind_nameKind (lexer : Lexer) (name rest : List Char) (text : String) (span : Span) :
    lexer.context.behind ⟨lexer.nameKind name rest, text, span⟩ =
      ⟨lexer.startRow, if lexer.nameKind name rest = .tableKeyword then .keyword else .none⟩ := by
  rw [startRow_eq]
  rcases lexer.nameKind_cases name rest with kind | kind | kind | kind <;> rw [kind] <;> rfl

theorem take_passes {lexer : Lexer} {form : Form} {c : Char} {tail after : List Char}
    (running : lexer.finished = false) (here : lexer.settled.cursor.ahead = c :: tail ++ after)
    (spells : form.Spells c (tail ++ after) tail) (fits : lexer.Fits form) :
    ∃ token next, lexer.settled.take (tail.length + 1) form = (.ok token, next) ∧
      lexer.Passes form c tail token next := by
  have rows : lexer.settled.startRow = lexer.context.startRow := lexer.settled.startRow_eq
  cases form with
  | comment => exact accept_passes running here rfl rfl
  | string | number | colon | comma =>
    simp only [take, rows]
    exact accept_passes running here rfl rfl
  | name =>
    have name : lexer.settled.cursor.ahead.take (tail.length + 1) = c :: tail := by simp [here]
    have behind : lexer.settled.cursor.ahead.drop (tail.length + 1) = after := by simp [here]
    simp only [take, name, behind]
    exact accept_passes running here rfl (behind_nameKind lexer _ _ _ _).symm
  | opening delimiter =>
    obtain ⟨_, rfl⟩ := spells
    simp only [take, rows]
    refine accept_passes running here rfl ?_
    cases delimiter <;> rfl
  | closing delimiter =>
    obtain ⟨_, rfl⟩ := spells
    obtain ⟨frame, outer, opened, same⟩ : ∃ frame outer, lexer.frames = frame :: outer ∧
        frame.opener.delimiter = delimiter := by
      cases opened : lexer.frames with
      | nil => simp [Fits, opened] at fits
      | cons frame outer => exact ⟨frame, outer, rfl, by simpa [Fits, opened] using fits⟩
    simp only [take, close, frames_settled, opened, if_pos same]
    refine accept_passes running here rfl ?_
    cases delimiter <;> simp [context, Context.behind, Context.closed, Delimiter.closeKind, opened]

theorem not_fits {lexer : Lexer} {form : Form} (unfit : ¬ lexer.Fits form) :
    ∃ delimiter, form = .closing delimiter := by
  cases form with
  | closing delimiter => exact ⟨delimiter, rfl⟩
  | _ => exact absurd trivial unfit

theorem close_of_unfit {lexer : Lexer} {delimiter : Delimiter}
    (unfit : ¬ lexer.Fits (.closing delimiter)) :
    lexer.settled.close delimiter =
      lexer.settled.stop lexer.settled.cursor.advance
        (.unbalancedDelimiter (some delimiter.closeChar)
          (lexer.settled.cursor.place.upTo lexer.settled.cursor.advance.place)
          (lexer.frames.head?.map (·.opener))) := by
  unfold close
  split
  · rename_i opened
    have none : lexer.frames = [] := opened
    rw [none]
    rfl
  · rename_i frame outer opened
    have some : lexer.frames = frame :: outer := opened
    have different : frame.opener.delimiter ≠ delimiter := by simpa [Fits, some] using unfit
    rw [some]
    exact if_neg different

theorem Meets.takes {lexer : Lexer} {c : Char} {rest tail : List Char} {form : Form}
    (meets : lexer.Meets c rest) (spells : form.Spells c rest tail) (fits : lexer.Fits form) :
    ∃ token after, lexer.next = (.ok token, after) ∧ lexer.Passes form c tail token after := by
  rw [meets.next]
  simp only [scan, Reading.ofText_eq_lexeme_iff.mpr spells]
  obtain ⟨after, rfl⟩ := spells.append
  exact take_passes meets.running meets.here spells fits

theorem Meets.step {lexer : Lexer} {c : Char} {rest : List Char} (meets : lexer.Meets c rest) :
    Step lexer (lexer.settled.scan c rest).1 (lexer.settled.scan c rest).2 := by
  have here := meets.here
  cases reading : Reading.ofText c rest with
  | lexeme form tail =>
    have spells := Reading.ofText_eq_lexeme_iff.mp reading
    simp only [scan, reading]
    by_cases fits : lexer.Fits form
    · obtain ⟨after, rfl⟩ := spells.append
      obtain ⟨token, next, taken, passes⟩ := take_passes meets.running here spells fits
      rw [taken]
      exact .lexeme meets spells fits passes
    · obtain ⟨delimiter, rfl⟩ := not_fits fits
      obtain ⟨same, _⟩ := spells
      have passed : lexer.settled.cursor.ahead.take 1 = [c] := by rw [here]; rfl
      have step := Step.unbalanced meets same fits
      simp only [take, close_of_unfit fits, stop, Cursor.advance, Cursor.place_advanceBy, passed, ← same]
      exact step
  | unterminated tail =>
    obtain ⟨rfl, text⟩ := Reading.ofText_eq_unterminated reading
    have step := Step.unterminated meets text
    obtain ⟨after, same⟩ := Reading.stringTail_append rest
    have passed : lexer.settled.cursor.ahead.take (tail.length + 1) = '"' :: tail := by
      rw [here, same, text]
      simp
    simp only [scan, reading, stop, Cursor.place_advanceBy, passed]
    exact step
  | unexpected =>
    simp only [scan, reading]
    exact .unexpected meets reading

theorem step_next (lexer : Lexer) : Step lexer lexer.next.1 lexer.next.2 := by
  cases running : lexer.finished with
  | true =>
    rw [next_of_finished running]
    exact .done running
  | false =>
    cases here : lexer.settled.cursor.ahead with
    | nil =>
      rw [next_of_nothing running here]
      unfold finish
      split
      · rename_i opened
        exact .last running here opened
      · rename_i opened
        exact .unclosed running here opened
    | cons c rest =>
      by_cases breaks : lexer.BreaksBefore c rest
      · obtain ⟨span, found⟩ := lineFeed?_isSome breaks.1
        obtain ⟨before, after, gap, fresh, place⟩ := lineFeed?_eq_some found
        rw [next_of_break running here found breaks.2]
        exact .rowBreak running here breaks.2 gap fresh place
      · have meets : lexer.Meets c rest := ⟨running, here, breaks⟩
        rw [meets.next]
        exact meets.step

theorem step_of_next {lexer after : Lexer} {result : Except LexError Token}
    (call : lexer.next = (result, after)) : Step lexer result after := by
  have step := lexer.step_next
  rwa [call] at step

theorem Step.error_start {lexer after : Lexer} {error : LexError} (step : Step lexer (.error error) after) :
    error.span.start = lexer.settled.cursor.place.offset := by
  cases step <;> rfl

theorem gap_append_settled (lexer : Lexer) :
    lexer.gap ++ lexer.settled.cursor.ahead = lexer.cursor.skipByteOrderMark.ahead := by
  unfold gap settled
  rw [Cursor.ahead_advanceWhile, List.takeWhile_append_dropWhile]

theorem read_settled (lexer : Lexer) :
    lexer.settled.cursor.read = lexer.cursor.skipByteOrderMark.read ++ lexer.gap :=
  Cursor.read_advanceWhile isBlank _

theorem read_append_ahead_settled (lexer : Lexer) :
    lexer.settled.cursor.read ++ lexer.settled.cursor.ahead = lexer.cursor.read ++ lexer.cursor.ahead := by
  rw [read_settled, List.append_assoc, gap_append_settled, Cursor.read_append_ahead_skipByteOrderMark]

theorem isBlank_of_mem_gap {lexer : Lexer} {c : Char} (member : c ∈ lexer.gap) : isBlank c = true :=
  List.all_eq_true.mp List.all_takeWhile c member

theorem isBlank_head_settled {lexer : Lexer} {c : Char} {rest : List Char}
    (here : lexer.settled.cursor.ahead = c :: rest) : isBlank c = false := by
  have stopped := List.head?_dropWhile_not isBlank lexer.cursor.skipByteOrderMark.ahead
  unfold settled at here
  rw [Cursor.ahead_advanceWhile] at here
  rw [here] at stopped
  simpa using stopped

theorem settled_of_blank {lexer : Lexer} (unmarked : lexer.cursor.skipByteOrderMark = lexer.cursor)
    {blank rest : List Char} {c : Char} (ahead : lexer.cursor.ahead = blank ++ c :: rest)
    (space : ∀ d ∈ blank, isBlank d = true) (solid : isBlank c = false) :
    lexer.gap = blank ∧ lexer.settled.cursor.ahead = c :: rest := by
  unfold gap settled
  rw [Cursor.ahead_advanceWhile, unmarked, ahead, List.takeWhile_append_of_pos space,
    List.dropWhile_append_of_pos space]
  simp [solid]

theorem settled_of_started {lexer : Lexer} (started : lexer.cursor.Started) {c : Char} {rest : List Char}
    (here : lexer.cursor.ahead = c :: rest) (solid : isBlank c = false) :
    lexer.gap = [] ∧ lexer.settled = lexer := by
  unfold gap settled
  rw [started.skipByteOrderMark, Cursor.advanceWhile_of_head here solid, here]
  simp [solid]

theorem solid_settled (lexer : Lexer) {c : Char} (head : lexer.settled.cursor.ahead.head? = some c) :
    isBlank c = false := by
  obtain ⟨rest, here⟩ := List.head?_eq_some_iff.mp head
  exact isBlank_head_settled here

/-- A lexer with no blank text ahead meets what is ahead. -/
theorem meets_of_started {lexer : Lexer} (started : lexer.cursor.Started)
    (running : lexer.finished = false) {c : Char} {rest : List Char} (here : lexer.cursor.ahead = c :: rest)
    (solid : isBlank c = false) : lexer.Meets c rest := by
  obtain ⟨none, same⟩ := settled_of_started started here solid
  refine ⟨running, by rw [same]; exact here, fun breaks => ?_⟩
  have feed := breaks.1
  rw [none] at feed
  cases feed

theorem Passes.form {lexer after : Lexer} {form : Form} {c : Char} {tail : List Char} {token : Token}
    (passes : lexer.Passes form c tail token after) : token.kind.form? = some form := by
  rw [passes.kind, form?_kindOf]

theorem Passes.kind_ne {lexer after : Lexer} {form : Form} {c : Char} {tail : List Char} {token : Token}
    (passes : lexer.Passes form c tail token after) : token.kind ≠ .eof ∧ token.kind ≠ .newline := by
  have known := passes.form
  constructor <;> intro kind <;> rw [kind] at known <;> cases known

theorem Passes.read {lexer after : Lexer} {form : Form} {c : Char} {tail : List Char} {token : Token}
    (passes : lexer.Passes form c tail token after) :
    after.cursor.read = lexer.settled.cursor.read ++ c :: tail := by
  rw [passes.cursor, Cursor.read_advanceBy, passes.ahead]
  simp

theorem feed_mem_gap {lexer : Lexer} {c : Char} {rest : List Char}
    (ended : Reading.LineEnd lexer.cursor.ahead) (here : lexer.settled.cursor.ahead = c :: rest) :
    '\n' ∈ lexer.gap := by
  have unmarked : lexer.cursor.ahead.head? ≠ some '\uFEFF' := by
    generalize lexer.cursor.ahead = ahead at ended
    cases ended <;> simp
  unfold settled at here
  rw [Cursor.ahead_advanceWhile, Cursor.skipByteOrderMark_eq unmarked] at here
  rw [gap, Cursor.skipByteOrderMark_eq unmarked]
  exact ended.feed_mem (by simp [here])

theorem rowEnds_iff {lexer : Lexer} {c : Char} {rest : List Char} : lexer.rowEnds c rest = true ↔
    (∃ frame, lexer.frames.head? = some frame ∧ frame.role = .rows true) ∧ c ≠ ']' ∧
      Reading.startsComment c rest = false := by
  unfold rowEnds
  cases lexer.frames.head? <;> simp [and_assoc]

/-- A row break leaves the lexer where the next row starts. -/
theorem Step.rowBreak_inv {lexer after : Lexer} {token : Token} (step : Step lexer (.ok token) after)
    (kind : token.kind = .newline) :
    ∃ c rest before behind, lexer.settled.cursor.ahead = c :: rest ∧ lexer.rowEnds c rest = true ∧
      lexer.gap = before ++ '\n' :: behind ∧ '\n' ∉ before ∧
      token.span = (lexer.cursor.skipByteOrderMark.place.after before).upTo
        (lexer.cursor.skipByteOrderMark.place.after (before ++ ['\n'])) ∧
      token.text = "\n" ∧ after = lexer.settled.endRow := by
  cases step with
  | done | last => cases kind
  | rowBreak _ here ends gap fresh span => exact ⟨_, _, _, _, here, ends, gap, fresh, span, rfl, rfl⟩
  | lexeme _ _ _ passes => exact absurd kind passes.kind_ne.2

theorem Step.stop {lexer after : Lexer} {token : Token} (step : Step lexer (.ok token) after)
    (more : token.isEof = false) (unbroken : token.kind ≠ .newline) :
    token.span.stop = after.cursor.place.offset := by
  cases step with
  | done | last => cases more
  | rowBreak => exact absurd rfl unbroken
  | lexeme _ _ _ passes => rw [passes.span]; rfl

/-- A comment ends with its line. -/
theorem Step.lineEnd {lexer after : Lexer} {token : Token} (step : Step lexer (.ok token) after)
    (comment : token.kind = .comment) : Reading.LineEnd after.cursor.ahead := by
  cases step with
  | done | last | rowBreak => cases comment
  | @lexeme c rest tail form _ _ meets spells _ passes =>
    have same := passes.form
    rw [comment] at same
    cases same
    obtain ⟨_, text⟩ := spells
    obtain ⟨behind, split, ended⟩ := Reading.commentTail_append rest
    obtain ⟨_, same⟩ := List.cons.inj (meets.here.symm.trans passes.ahead)
    rw [split, ← text] at same
    rwa [List.append_cancel_left same] at ended

theorem Step.of_meets {lexer after : Lexer} {token : Token} (step : Step lexer (.ok token) after)
    {c : Char} {rest : List Char} (meets : lexer.Meets c rest) :
    ∃ form tail, form.Spells c rest tail ∧ lexer.Fits form ∧ lexer.Passes form c tail token after := by
  cases step with
  | done ended => exact absurd meets.running (by simp [ended])
  | last _ nothing => exact absurd meets.here (by simp [nothing])
  | rowBreak _ here ends gap =>
    cases meets.here.symm.trans here
    exact absurd ⟨by rw [gap]; simp, ends⟩ meets.unbroken
  | lexeme met spells fits passes =>
    cases met.here.symm.trans meets.here
    exact ⟨_, _, spells, fits, passes⟩

end Lexer

end DataLexer
