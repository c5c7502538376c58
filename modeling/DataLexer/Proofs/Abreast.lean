import DataLexer.Proofs.Alike
import DataLexer.Proofs.Balance
import DataLexer.Proofs.Boundary

namespace DataLexer

/-- Errors of one kind, over one character and over brackets of one kind. -/
def LexError.Alike : LexError → LexError → Prop
  | .unterminatedString _, .unterminatedString _ => True
  | .unbalancedDelimiter found _ opener, .unbalancedDelimiter found' _ opener' =>
    found = found' ∧ opener.map (·.delimiter) = opener'.map (·.delimiter)
  | .unexpectedCharacter found _, .unexpectedCharacter found' _ => found = found'
  | _, _ => False

/-- The open bracket that an error names. -/
def LexError.opener? : LexError → Option Opener
  | .unbalancedDelimiter _ _ opener => opener
  | _ => none

namespace Context

/-- The brackets that are open, innermost first. -/
def openers (context : Context) : List Opener := context.frames.map (·.opener)

theorem map_opener_modifyHead {change : Frame → Frame} (kept : ∀ frame, (change frame).opener = frame.opener)
    (frames : List Frame) : (frames.modifyHead change).map (·.opener) = frames.map (·.opener) := by
  cases frames with
  | nil => rfl
  | cons frame outer => simp [kept]

/-- What a token does to the open brackets. -/
theorem openers_behind (context : Context) (token : Token) :
    (context.behind token).openers =
      match token.kind.opens?, token.kind.closes? with
      | some delimiter, _ => ⟨delimiter, token.span⟩ :: context.openers
      | none, some _ => context.openers.tail
      | none, none => context.openers := by
  have start (frame : Frame) : frame.startRow.opener = frame.opener := by
    obtain ⟨opener, role⟩ := frame
    cases role <;> rfl
  have ends (frame : Frame) : frame.endRow.opener = frame.opener := by
    obtain ⟨opener, role⟩ := frame
    cases role <;> rfl
  have started : context.startRow.map (·.opener) = context.openers := map_opener_modifyHead start _
  cases kind : token.kind with
  | comment | eof => simp only [behind, kind, TokenKind.opens?, TokenKind.closes?]
  | newline =>
    simp only [behind, kind, TokenKind.opens?, TokenKind.closes?]
    exact map_opener_modifyHead ends _
  | blockOpen | arrayOpen | parenOpen =>
    simp only [behind, kind, TokenKind.opens?, opened, openers, List.map_cons, started]
  | blockClose | arrayClose | parenClose =>
    simp only [behind, kind, TokenKind.opens?, TokenKind.closes?, closed, openers, List.map_tail]
  | tableKeyword | key | colon | string | number | boolean | identifier | comma =>
    simp only [behind, kind, TokenKind.opens?, TokenKind.closes?]
    exact started

/-- Tokens of one kind keep open brackets related when related brackets are opened. -/
theorem forall₂_openers_behind {R : Opener → Opener → Prop} {context other : Context}
    {token again : Token} (openers : List.Forall₂ R context.openers other.openers)
    (kind : again.kind = token.kind)
    (opens : ∀ delimiter, token.kind.opens? = some delimiter →
      R ⟨delimiter, token.span⟩ ⟨delimiter, again.span⟩) :
    List.Forall₂ R (context.behind token).openers (other.behind again).openers := by
  rw [openers_behind, openers_behind, kind]
  cases opening : token.kind.opens? with
  | some delimiter => exact .cons (opens delimiter opening) openers
  | none =>
    cases token.kind.closes? with
    | some delimiter => exact forall₂_tail openers
    | none => exact openers

end Context

namespace Reading

theorem ofText_of_opened {rest : List Char} (opened : (stringTail rest).2 = false) :
    ofText '"' rest = .unterminated (stringTail rest).1 := by
  have split : stringTail rest = ((stringTail rest).1, false) := by rw [← opened]
  simp only [ofText, startsComment]
  rw [split]
  simp

end Reading

theorem BeginAlike.cons {c : Char} {rest text' : List Char} (alike : BeginAlike (c :: rest) text') :
    ∃ rest', text' = c :: rest' ∧ Reading.startsComment c rest' = Reading.startsComment c rest := by
  generalize text : c :: rest = whole at alike
  cases alike with
  | nothing => cases text
  | lexeme spells spells' =>
    obtain ⟨rfl, rfl⟩ := List.cons.inj text
    exact ⟨_, rfl, Bool.eq_iff_iff.mpr (spells'.startsComment_iff.trans spells.startsComment_iff.symm)⟩
  | unterminated =>
    obtain ⟨rfl, rfl⟩ := List.cons.inj text
    exact ⟨_, rfl, rfl⟩
  | unexpected unread unread' =>
    obtain ⟨rfl, rfl⟩ := List.cons.inj text
    have none {rest : List Char} (unread : Reading.ofText c rest = .unexpected) :
        Reading.startsComment c rest = false := by
      refine Bool.eq_false_iff.mpr fun starts => ?_
      exact (Reading.ofText_eq_unexpected_iff.mp unread).2 .comment _ ⟨starts, rfl⟩
    exact ⟨_, rfl, (none unread').trans (none unread).symm⟩

namespace Lexer

/-- Two running lexers in alike brackets whose texts ahead begin alike. The blank text before them holds
a line feed in both or in neither. -/
structure Abreast (lexer copy : Lexer) : Prop where
  running : lexer.finished = false
  copyRunning : copy.finished = false
  alike : lexer.context.Alike copy.context
  ahead : BeginAlike lexer.settled.cursor.ahead copy.settled.cursor.ahead
  feeds : lexer.settled.cursor.ahead ≠ [] → ('\n' ∈ copy.gap ↔ '\n' ∈ lexer.gap)

/-- What one call gives two lexers abreast. -/
inductive Together (lexer copy : Lexer) :
    Except LexError Token × Lexer → Except LexError Token × Lexer → Prop
  | last : lexer.settled.cursor.ahead = [] →
      Together lexer copy (.ok (.atEnd lexer.settled.cursor.place), { lexer.settled with finished := true })
        (.ok (.atEnd copy.settled.cursor.place), { copy.settled with finished := true })
  | rowBreak {before after before' after' span span'} :
      lexer.gap = before ++ '\n' :: after → '\n' ∉ before →
      span = (lexer.cursor.skipByteOrderMark.place.after before).upTo
        (lexer.cursor.skipByteOrderMark.place.after (before ++ ['\n'])) →
      copy.gap = before' ++ '\n' :: after' → '\n' ∉ before' →
      span' = (copy.cursor.skipByteOrderMark.place.after before').upTo
        (copy.cursor.skipByteOrderMark.place.after (before' ++ ['\n'])) →
      BeginAlike lexer.settled.cursor.ahead copy.settled.cursor.ahead →
      Together lexer copy (.ok ⟨.newline, "\n", span⟩, lexer.settled.endRow)
        (.ok ⟨.newline, "\n", span'⟩, copy.settled.endRow)
  | lexeme {form : Form} {c tail token after token' after'} : lexer.Passes form c tail token after →
      copy.Passes form c tail token' after' → form.Spells c (tail ++ after.cursor.ahead) tail →
      token'.kind = token.kind → Together lexer copy (.ok token, after) (.ok token', after')
  | error {error error' after after'} : error.Alike error' →
      (error.opener? = none ∧ error'.opener? = none ∨
        error.opener? = lexer.context.openers.head? ∧ error'.opener? = copy.context.openers.head?) →
      Together lexer copy (.error error, after) (.error error', after')

theorem next_of_closed {lexer : Lexer} (running : lexer.finished = false)
    (nothing : lexer.settled.cursor.ahead = []) (closed : lexer.frames = []) :
    lexer.next = (.ok (.atEnd lexer.settled.cursor.place), { lexer.settled with finished := true }) := by
  rw [next_of_nothing running nothing]
  unfold finish
  split
  · rfl
  · rename_i opened
    rw [frames_settled, closed] at opened
    cases opened

theorem Meets.next_of_opened {lexer : Lexer} {rest : List Char} (meets : lexer.Meets '"' rest)
    (opened : (Reading.stringTail rest).2 = false) :
    ∃ span after, lexer.next = (.error (.unterminatedString span), after) := by
  rw [meets.next]
  simp only [scan, Reading.ofText_of_opened opened]
  exact ⟨_, _, rfl⟩

theorem Meets.next_of_unexpected {lexer : Lexer} {c : Char} {rest : List Char}
    (meets : lexer.Meets c rest) (unexpected : Reading.ofText c rest = .unexpected) :
    ∃ span after, lexer.next = (.error (.unexpectedCharacter c span), after) := by
  rw [meets.next]
  simp only [scan, unexpected]
  exact ⟨_, _, rfl⟩

namespace Abreast

variable {lexer copy : Lexer} {c : Char} {rest rest' tail : List Char} {form : Form}

theorem frames_nil (abreast : lexer.Abreast copy) : lexer.frames = [] ↔ copy.frames = [] := by
  have frames := abreast.alike.frames
  unfold context at frames
  constructor <;> intro none <;> rw [none] at frames
  · exact List.forall₂_nil_left_iff.mp frames
  · exact List.forall₂_nil_right_iff.mp frames

theorem unbalanced (abreast : lexer.Abreast copy) (found : Option Char) (span span' : Span)
    {after after' : Lexer} :
    Together lexer copy
      (.error (.unbalancedDelimiter found span (lexer.frames.head?.map (·.opener))), after)
      (.error (.unbalancedDelimiter found span' (copy.frames.head?.map (·.opener))), after') := by
  refine .error ⟨rfl, ?_⟩ (Or.inr ⟨?_, ?_⟩)
  · rw [Option.map_map, Option.map_map]
    exact abreast.alike.head_frames.1
  · exact List.head?_map.symm
  · exact List.head?_map.symm

theorem last (abreast : lexer.Abreast copy) (nothing : lexer.settled.cursor.ahead = [])
    (nothing' : copy.settled.cursor.ahead = []) : Together lexer copy lexer.next copy.next := by
  by_cases closed : lexer.frames = []
  · have closed' := abreast.frames_nil.mp closed
    rw [next_of_closed abreast.running nothing closed, next_of_closed abreast.copyRunning nothing' closed']
    exact .last nothing
  · have opened' := mt abreast.frames_nil.mpr closed
    obtain ⟨_, _, call⟩ := next_of_unclosed abreast.running nothing closed
    obtain ⟨_, _, call'⟩ := next_of_unclosed abreast.copyRunning nothing' opened'
    rw [call, call']
    exact abreast.unbalanced _ _ _

theorem rowBreak (abreast : lexer.Abreast copy) (here : lexer.settled.cursor.ahead = c :: rest)
    (here' : copy.settled.cursor.ahead = c :: rest') (breaks : lexer.BreaksBefore c rest)
    (breaks' : copy.BreaksBefore c rest') : Together lexer copy lexer.next copy.next := by
  obtain ⟨_, call⟩ := breaks.next abreast.running here
  obtain ⟨_, call'⟩ := breaks'.next abreast.copyRunning here'
  obtain ⟨_, _, _, _, _, _, gap, fresh, span, _⟩ := (step_of_next call).rowBreak_inv rfl
  obtain ⟨_, _, _, _, _, _, gap', fresh', span', _⟩ := (step_of_next call').rowBreak_inv rfl
  rw [call, call']
  exact .rowBreak gap fresh span gap' fresh' span' abreast.ahead

theorem lexeme (abreast : lexer.Abreast copy) (meets : lexer.Meets c rest) (meets' : copy.Meets c rest')
    (spells : form.Spells c rest tail) (spells' : form.Spells c rest' tail)
    (colon : form = .name → ∀ after after', rest = tail ++ after → rest' = tail ++ after' →
      (ColonNext after' ↔ ColonNext after)) : Together lexer copy lexer.next copy.next := by
  by_cases fits : lexer.Fits form
  · obtain ⟨token, after, call, passes⟩ := meets.takes spells fits
    obtain ⟨token', after', call', passes'⟩ := meets'.takes spells' (fits_alike abreast.alike fits)
    obtain ⟨_, split⟩ := List.cons.inj (meets.here.symm.trans passes.ahead)
    obtain ⟨_, split'⟩ := List.cons.inj (meets'.here.symm.trans passes'.ahead)
    have kind : token'.kind = token.kind := by
      rw [passes.kind, passes'.kind]
      exact kindOf_alike abreast.alike fun name => ⟨rfl, colon name _ _ split split'⟩
    rw [call, call']
    rw [split] at spells
    exact .lexeme passes passes' spells kind
  · obtain ⟨delimiter, rfl⟩ := not_fits fits
    obtain ⟨rfl, _⟩ := spells
    have unfit' : ¬ copy.Fits (.closing delimiter) := by
      unfold Fits at fits ⊢
      have same := abreast.alike.head_frames.1
      unfold context at same
      rwa [← same]
    obtain ⟨_, _, call⟩ := meets.next_of_unfit fits
    obtain ⟨_, _, call'⟩ := meets'.next_of_unfit unfit'
    rw [call, call']
    exact abreast.unbalanced _ _ _

/-- One call gives two lexers abreast the same. -/
theorem next (abreast : lexer.Abreast copy) : Together lexer copy lexer.next copy.next := by
  cases here : lexer.settled.cursor.ahead with
  | nil =>
    have ahead := abreast.ahead
    rw [here] at ahead
    generalize there : copy.settled.cursor.ahead = text at ahead
    cases ahead
    exact abreast.last here there
  | cons c rest =>
    have ahead := abreast.ahead
    rw [here] at ahead
    obtain ⟨rest', here', comment⟩ := ahead.cons
    have ends : copy.rowEnds c rest' = lexer.rowEnds c rest := rowEnds_alike abreast.alike comment
    have feeds := abreast.feeds (by simp [here])
    by_cases breaks : lexer.BreaksBefore c rest
    · exact abreast.rowBreak here here' breaks ⟨feeds.mpr breaks.1, ends.trans breaks.2⟩
    · have meets : lexer.Meets c rest := ⟨abreast.running, here, breaks⟩
      have meets' : copy.Meets c rest' :=
        ⟨abreast.copyRunning, here', fun again => breaks ⟨feeds.mp again.1, ends.symm.trans again.2⟩⟩
      rw [here'] at ahead
      generalize text : c :: rest = whole at ahead
      generalize text' : c :: rest' = whole' at ahead
      cases ahead with
      | nothing => cases text
      | lexeme spells spells' colon =>
        obtain ⟨rfl, rfl⟩ := List.cons.inj text
        obtain ⟨_, rfl⟩ := List.cons.inj text'
        refine abreast.lexeme meets meets' spells spells' fun name after after' split split' => ?_
        rw [← List.append_cancel_left split, ← List.append_cancel_left split']
        exact colon name
      | unterminated opened opened' =>
        obtain ⟨rfl, rfl⟩ := List.cons.inj text
        obtain ⟨_, rfl⟩ := List.cons.inj text'
        obtain ⟨_, _, call⟩ := meets.next_of_opened opened
        obtain ⟨_, _, call'⟩ := meets'.next_of_opened opened'
        rw [call, call']
        exact .error trivial (Or.inl ⟨rfl, rfl⟩)
      | unexpected unread unread' =>
        obtain ⟨rfl, rfl⟩ := List.cons.inj text
        obtain ⟨_, rfl⟩ := List.cons.inj text'
        obtain ⟨_, _, call⟩ := meets.next_of_unexpected unread
        obtain ⟨_, _, call'⟩ := meets'.next_of_unexpected unread'
        rw [call, call']
        exact .error rfl (Or.inl ⟨rfl, rfl⟩)

end Abreast

/-- An error is shown where the lexer stands behind the blank text. -/
theorem Step.error_place {lexer after : Lexer} {error : LexError} (step : Step lexer (.error error) after) :
    error.span.line = lexer.settled.cursor.place.line ∧
      error.span.column = lexer.settled.cursor.place.column := by
  cases step <;> exact ⟨rfl, rfl⟩

/-- Lexers that calls keep related give related streams. -/
theorem drain_related {R : Lexer → Lexer → Prop} {T : Token → Token → Prop}
    {E : LexError → LexError → Prop}
    (step : ∀ lexer copy, R lexer copy →
      (∃ error error' after after', lexer.next = (.error error, after) ∧
        copy.next = (.error error', after') ∧ E error error') ∨
      ∃ token token' after after', lexer.next = (.ok token, after) ∧ copy.next = (.ok token', after') ∧
        T token token' ∧ token'.isEof = token.isEof ∧ (token.isEof = false → R after after'))
    {lexer copy : Lexer} (related : R lexer copy) :
    List.Forall₂ T lexer.drain.tokens copy.drain.tokens ∧
      Option.Rel E lexer.drain.error copy.drain.error := by
  induction lexer using drain_induction generalizing copy with
  | stop lexer ended =>
    rcases step lexer copy related with ⟨error, error', after, after', call, call', errors⟩ |
      ⟨token, token', after, after', call, call', tokens, same, _⟩
    · rw [drain_of_error call, drain_of_error call']
      exact ⟨.nil, .some errors⟩
    · rw [drain_of_token call, drain_of_token call', same, ended token after call]
      exact ⟨.cons tokens .nil, .none⟩
  | more lexer token after call goesOn ih =>
    rcases step lexer copy related with ⟨_, _, _, _, fails, _⟩ |
      ⟨_, token', _, after', again, call', tokens, same, next⟩
    · cases call.symm.trans fails
    · cases call.symm.trans again
      obtain ⟨later, outcome⟩ := ih (next goesOn)
      rw [drain_of_more call goesOn, drain_of_more call' (same.trans goesOn)]
      exact ⟨.cons tokens later, outcome⟩

end Lexer

end DataLexer
