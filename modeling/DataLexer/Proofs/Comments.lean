import DataLexer.Proofs.Bare

namespace DataLexer

/-- What a token is and how it is written. -/
def Token.shape (token : Token) : TokenKind × String := (token.kind, token.text)

namespace Lexer

/-- A lexer beside one that has the text `text` ahead, behind blank text that stands where comments have
been. A line feed in it is one that the first lexer has still to pass. -/
structure Beside (lexer copy : Lexer) (text : List Char) : Prop where
  copyRunning : copy.finished = false
  alike : lexer.context.Alike copy.context
  started : lexer.cursor.Started
  copyStarted : copy.cursor.Started
  ahead : ∃ blank, copy.cursor.ahead = blank ++ text ∧ (∀ c ∈ blank, isBlank c = true) ∧
    ('\n' ∈ blank → lexer.settled.cursor.ahead ≠ [] → '\n' ∈ lexer.gap)

namespace Beside

variable {lexer copy after after' : Lexer} {text : List Char} {token token' : Token}

/-- Where no comment comes next the two lexers are abreast. -/
theorem abreast (beside : lexer.Beside copy text) (running : lexer.finished = false)
    (bare : lexer.Bare text)
    (noComment : ∀ token after, lexer.next = (.ok token, after) → token.kind ≠ .comment) :
    ∃ rest, text = lexer.gap ++ rest ∧ copy.settled.cursor.ahead = rest ∧ lexer.Abreast copy := by
  obtain ⟨rest, rfl, begin⟩ := bare.begins beside.started noComment
  obtain ⟨blank, ahead, space, feeds⟩ := beside.ahead
  have solid : ∀ c ∈ blank ++ lexer.gap, isBlank c = true :=
    List.forall_mem_append.mpr ⟨space, fun _ => isBlank_of_mem_gap⟩
  rw [← List.append_assoc] at ahead
  cases here : lexer.settled.cursor.ahead with
  | nil =>
    rw [here] at begin
    cases begin
    have nothing : copy.settled.cursor.ahead = [] := by
      rw [ahead_settled_of_started beside.copyStarted, ahead, List.dropWhile_append_of_pos solid]
      rfl
    refine ⟨[], rfl, nothing, running, beside.copyRunning, beside.alike, ?_, fun more => absurd here more⟩
    rw [here, nothing]
    exact .nothing
  | cons c behind =>
    rw [here] at begin
    obtain ⟨behind', rfl, _⟩ := begin.cons
    obtain ⟨gap, here'⟩ := settled_of_blank beside.copyStarted.skipByteOrderMark ahead solid
      (isBlank_head_settled here)
    refine ⟨_, rfl, here', running, beside.copyRunning, beside.alike, ?_, fun more => ?_⟩
    · rw [here, here']
      exact begin
    · rw [gap, List.mem_append]
      exact or_iff_right_of_imp fun feed => feeds feed more

/-- Over a comment only the first lexer moves. -/
theorem comment (beside : lexer.Beside copy (lexer.gap ++ text)) (call : lexer.next = (.ok token, after))
    (comment : token.kind = .comment) : after.Beside copy text where
  copyRunning := beside.copyRunning
  alike := by
    have same : after.context = lexer.context := by
      rw [(step_of_next call).context]
      simp only [Context.behind, comment]
    rw [same]
    exact beside.alike
  started := (step_of_next call).started beside.started
  copyStarted := beside.copyStarted
  ahead := by
    obtain ⟨blank, ahead, space, _⟩ := beside.ahead
    have solid : ∀ c ∈ blank ++ lexer.gap, isBlank c = true :=
      List.forall_mem_append.mpr ⟨space, fun _ => isBlank_of_mem_gap⟩
    refine ⟨blank ++ lexer.gap, by rw [ahead, List.append_assoc], solid, fun _ more => ?_⟩
    obtain ⟨c, rest, here⟩ := List.exists_cons_of_ne_nil more
    exact feed_mem_gap ((step_of_next call).lineEnd comment) here

/-- Over a token of one kind both lexers move. -/
theorem both (beside : lexer.Beside copy text) (call : lexer.next = (.ok token, after))
    (call' : copy.next = (.ok token', after')) (kind : token'.kind = token.kind)
    (goesOn : token.isEof = false) : after.Beside after' after'.cursor.ahead where
  copyRunning := by rw [(step_of_next call').finished, Token.isEof, kind]; exact goesOn
  alike := by
    rw [(step_of_next call).context, (step_of_next call').context]
    exact beside.alike.behind kind
  started := (step_of_next call).started beside.started
  copyStarted := (step_of_next call').started beside.copyStarted
  ahead := ⟨[], rfl, by simp, by simp⟩

end Beside

end Lexer

/-- Two streams agree but for the comments of the first. -/
def TokenStream.AgreesBare (stream copy : TokenStream) : Prop :=
  copy.tokens.map (·.shape) = (stream.tokens.filter (·.kind ≠ .comment)).map (·.shape) ∧
    Option.Rel LexError.Alike stream.error copy.error

namespace TokenStream.AgreesBare

variable {stream copy : TokenStream} {token token' : Token}

theorem comment (agree : stream.AgreesBare copy) (comment : token.kind = .comment) :
    (stream.prepend token).AgreesBare copy := by
  obtain ⟨tokens, error⟩ := agree
  refine ⟨?_, error⟩
  rw [tokens, prepend, List.filter_cons_of_neg (by simp [comment])]

theorem other (agree : stream.AgreesBare copy) (other : token.kind ≠ .comment)
    (same : token'.shape = token.shape) : (stream.prepend token).AgreesBare (copy.prepend token') := by
  obtain ⟨tokens, error⟩ := agree
  refine ⟨?_, error⟩
  rw [prepend, prepend, List.map_cons, tokens, List.filter_cons_of_pos (by simp [other]), List.map_cons, same]

end TokenStream.AgreesBare

namespace Lexer

/-- A lexer beside another reads the same text without its comments. -/
theorem Bare.drain {lexer copy : Lexer} {text : List Char} (bare : lexer.Bare text)
    (running : lexer.finished = false) (beside : lexer.Beside copy text) :
    lexer.drain.AgreesBare copy.drain := by
  induction bare generalizing copy with
  | @last lexer ended =>
    have noComment : ∀ token after, lexer.next = (.ok token, after) → token.kind ≠ .comment := by
      intro token after call comment
      have last := ended token after call
      simp [Token.isEof, comment] at last
    obtain ⟨_, _, _, abreast⟩ := beside.abreast running (.last ended) noComment
    have together := abreast.next
    generalize call : lexer.next = result at together
    generalize call' : copy.next = result' at together
    cases together with
    | last =>
      rw [drain_of_token call, drain_of_token call']
      exact ⟨rfl, .none⟩
    | rowBreak => cases ended _ _ call
    | lexeme passes =>
      have last := ended _ _ call
      simp [Token.isEof, passes.kind_ne.1] at last
    | error alike =>
      rw [drain_of_error call, drain_of_error call']
      exact ⟨rfl, .some alike⟩
  | @comment lexer token after text call comment _ ih =>
    have goesOn : token.isEof = false := by simp [Token.isEof, comment]
    rw [drain_of_more call goesOn]
    exact (ih ((step_of_next call).finished.trans goesOn) (beside.comment call comment)).comment comment
  | @rowBreak lexer token after text call newline bare ih =>
    have goesOn : token.isEof = false := by simp [Token.isEof, newline]
    have other : token.kind ≠ .comment := by simp [newline]
    obtain ⟨rest, split, here, abreast⟩ := beside.abreast running (.rowBreak call newline bare)
      fun _ _ again => by cases call.symm.trans again; exact other
    obtain rfl := List.append_cancel_left split
    have together := abreast.next
    rw [call] at together
    generalize call' : copy.next = result' at together
    cases together with
    | last => cases newline
    | rowBreak =>
      have next := beside.both call call' rfl goesOn
      have ahead : copy.settled.endRow.cursor.ahead = text := here
      rw [ahead] at next
      rw [drain_of_more call goesOn, drain_of_more call' goesOn]
      exact (ih ((step_of_next call).finished.trans goesOn) next).other other rfl
    | lexeme passes => exact absurd newline passes.kind_ne.2
  | @lexeme lexer form c tail token after text call other spells passes bare ih =>
    have goesOn : token.isEof = false := by simp [Token.isEof, passes.kind_ne.1]
    obtain ⟨rest, split, here, abreast⟩ := beside.abreast running (.lexeme call other spells passes bare)
      fun _ _ again => by cases call.symm.trans again; exact other
    obtain rfl := List.append_cancel_left split
    have together := abreast.next
    rw [call] at together
    generalize call' : copy.next = result' at together
    cases together with
    | last => cases goesOn
    | rowBreak => exact absurd rfl passes.kind_ne.2
    | @lexeme _ _ _ _ _ token' after' again passes' _ kind =>
      have lexeme := List.append_cancel_right (again.ahead.symm.trans passes.ahead)
      have ahead := here.symm.trans passes'.ahead
      rw [lexeme] at ahead
      have next := beside.both call call' kind goesOn
      rw [← List.append_cancel_left ahead] at next
      have goesOn' : token'.isEof = false := by
        rw [Token.isEof, kind]
        exact goesOn
      have same : token'.shape = token.shape := by
        rw [Token.shape, Token.shape, kind, passes'.text, again.text]
      rw [drain_of_more call goesOn, drain_of_more call' goesOn']
      exact (ih passes.running next).other other same

theorem beside_atStart (source : String) : (atStart source).Beside (atStart (uncommented source))
    (outside (commentSpans (atStart source).drain.tokens) (atStart source).cursor.place.offset
      (atStart source).cursor.ahead) where
  copyRunning := rfl
  alike := .refl {}
  started := started_atStart source
  copyStarted := started_atStart _
  ahead := by
    refine ⟨[], ?_, by simp, by simp⟩
    have started := started_atStart source
    have offset : (atStart source).cursor.place.offset = byteLength (atStart source).cursor.read := by
      rw [started.place, Position.behind_offset]
    have looser := (bare_outside started).looser started
    have after (span : Span) (member : span ∈ commentSpans (atStart source).drain.tokens) :=
      le_of_mem_commentSpans started member
    have text : (uncommented source).toList =
        outside (commentSpans (atStart source).drain.tokens) 0 source.toList := by
      rw [uncommented, String.toList_ofList, drain_atStart]
    rw [offset] at looser after ⊢
    rcases cursor_atStart source with ⟨read, ahead, unmarked⟩ | ⟨read, marked⟩
    · rw [read, ahead] at looser
      rw [read, ahead]
      rcases cursor_atStart (uncommented source) with ⟨_, ahead', _⟩ | ⟨_, marked'⟩
      · rw [ahead', text]
        rfl
      · refine absurd (looser.head (by decide) ?_) unmarked
        have same := text.symm.trans marked'
        exact congrArg List.head? same
    · -- the mark stands before all comments
      have mark : outside (commentSpans (atStart source).drain.tokens) 0 ['\uFEFF'] = ['\uFEFF'] :=
        outside_of_apart fun span member => by
          have bound := after span member
          rw [read] at bound
          omega
      rw [marked, ← List.singleton_append, outside_append, mark] at text
      rcases cursor_atStart (uncommented source) with ⟨_, _, unmarked'⟩ | ⟨_, marked'⟩
      · exact absurd (by rw [text]; rfl) unmarked'
      · have same := (List.cons.inj (marked'.symm.trans text)).2
        rw [same, read, Nat.zero_add]
        rfl

end Lexer

/-- A text without its comments has the other tokens of the text, row breaks and the end included, and the
same error if it has one. -/
theorem tokenize_uncommented (source : String) :
    (tokenize (uncommented source)).tokens.map (·.shape) =
        ((tokenize source).tokens.filter (·.kind ≠ .comment)).map (·.shape) ∧
      Option.Rel LexError.Alike (tokenize source).error (tokenize (uncommented source)).error := by
  have started := Lexer.started_atStart source
  have bare := Lexer.bare_outside started
  have beside := Lexer.beside_atStart source
  rw [← Lexer.drain_atStart, ← Lexer.drain_atStart]
  exact bare.drain rfl beside

end DataLexer
