import DataLexer.Highlight
import DataLexer.Proofs.Run

namespace DataLexer

/-- A way to ask a lexer for what comes next. -/
inductive Request where
  | token
  | item

/-- The answer when the text is over: the token for its end, or no further item. -/
def Request.atEnd (place : Position) : Request → Option (Except LexError Token)
  | token => some (.ok (.atEnd place))
  | item => none

namespace TokenStream

/-- The tokens but for the end of the text. -/
def items (stream : TokenStream) : List Token := stream.tokens.filter (!·.isEof)

/-- The answer to the request number `k`, counted from zero, of a lexer that gives this stream and comes
to its end at `place`. -/
def answer (stream : TokenStream) (place : Position) (k : Nat) (request : Request) :
    Option (Except LexError Token) :=
  match stream.items[k]?, stream.error with
  | some token, _ => some (.ok token)
  | none, some error => if k = stream.items.length then some (.error error) else request.atEnd place
  | none, none => request.atEnd place

section Prepend

variable {stream : TokenStream} {token : Token} (more : token.isEof = false)

include more

theorem items_prepend : (stream.prepend token).items = token :: stream.items := by
  simp [items, prepend, more]

theorem answer_prepend_zero (place : Position) (request : Request) :
    (stream.prepend token).answer place 0 request = some (.ok token) := by
  simp [answer, items_prepend more]

theorem answer_prepend_succ (place : Position) (k : Nat) (request : Request) :
    (stream.prepend token).answer place (k + 1) request = stream.answer place k request := by
  have same : (stream.prepend token).error = stream.error := rfl
  simp [answer, items_prepend more, same]

end Prepend

end TokenStream

namespace Lexer

def ask (lexer : Lexer) : Request → Option (Except LexError Token) × Lexer
  | .token => (some lexer.next.1, lexer.next.2)
  | .item => lexer.next?

/-- The answers to requests made one behind the other, each with the lexer behind it. -/
def askAll (lexer : Lexer) : List Request → List (Option (Except LexError Token) × Lexer)
  | [] => []
  | request :: rest => lexer.ask request :: (lexer.ask request).2.askAll rest

/-- All requests are answered out of one stream, and from the end of its items on the lexer is `last`. -/
structure Answers (lexer : Lexer) (stream : TokenStream) (last : Lexer) : Prop where
  complete : stream.error = none → stream.tokens = stream.items ++ [.atEnd last.cursor.place]
  each : ∀ requests k request, requests[k]? = some request →
    ∃ after, (lexer.askAll requests)[k]? = some (stream.answer last.cursor.place k request, after) ∧
      (stream.items.length ≤ k → after = last)

variable {lexer after : Lexer} {token : Token} {error : LexError}

theorem ask_of_finished (ended : lexer.finished = true) (request : Request) :
    lexer.ask request = (request.atEnd lexer.cursor.place, lexer) := by
  cases request with
  | token =>
    unfold ask
    rw [next_of_finished ended]
    rfl
  | item => exact if_pos ended

theorem ask_of_token (call : lexer.next = (.ok token, after)) (running : lexer.finished = false)
    (more : token.isEof = false) (request : Request) : lexer.ask request = (some (.ok token), after) := by
  cases request with
  | token => simp [ask, call]
  | item => simp [ask, next?, running, call, more]

theorem ask_of_error (call : lexer.next = (.error error, after)) (running : lexer.finished = false)
    (request : Request) : lexer.ask request = (some (.error error), after) := by
  cases request with
  | token => simp [ask, call]
  | item => simp [ask, next?, running, call]

theorem ask_of_end {place : Position} (call : lexer.next = (.ok (.atEnd place), after))
    (running : lexer.finished = false) (request : Request) :
    lexer.ask request = (request.atEnd place, after) := by
  cases request with
  | token => simp [ask, call, Request.atEnd]
  | item => simp [ask, next?, running, call, Request.atEnd, Token.isEof, Token.atEnd]

theorem askAll_of_finished (ended : lexer.finished = true) {requests : List Request} {k : Nat}
    {request : Request} (asked : requests[k]? = some request) :
    (lexer.askAll requests)[k]? = some (request.atEnd lexer.cursor.place, lexer) := by
  induction requests generalizing k with
  | nil => cases asked
  | cons first rest ih =>
    rw [askAll, ask_of_finished ended]
    cases k with
    | zero =>
      cases asked
      rfl
    | succ k => exact ih asked

/-- Behind a call that ends the pass every answer is the end. -/
theorem askAll_of_stop {stop : Request → Option (Except LexError Token)}
    (ask : ∀ request, lexer.ask request = (stop request, after)) (ended : after.finished = true)
    {requests : List Request} {k : Nat} {request : Request} (asked : requests[k]? = some request) :
    (lexer.askAll requests)[k]? =
      some (if k = 0 then stop request else request.atEnd after.cursor.place, after) := by
  cases requests with
  | nil => cases asked
  | cons first rest =>
    rw [askAll, ask]
    cases k with
    | zero =>
      cases asked
      rfl
    | succ k => exact askAll_of_finished ended asked

theorem Answers.of_error (call : lexer.next = (.error error, after)) :
    lexer.Answers lexer.drain after := by
  have step := step_of_next call
  rw [drain_of_error call]
  refine ⟨nofun, fun requests k request asked => ⟨after, ?_, fun _ => rfl⟩⟩
  exact askAll_of_stop (ask_of_error call step.running_of_error) step.finished_of_error asked

theorem Answers.of_end (call : lexer.next = (.ok token, after)) (running : lexer.finished = false)
    (eof : token.isEof = true) : lexer.Answers lexer.drain after := by
  have step := step_of_next call
  have ended : after.finished = true := step.finished.trans eof
  obtain rfl : token = .atEnd after.cursor.place := by
    cases step with
    | done => rfl
    | last => rfl
    | rowBreak => cases eof
    | lexeme _ _ _ passes => simp [Token.isEof, passes.kind_ne.1] at eof
  rw [drain_of_token call, if_pos eof]
  refine ⟨fun _ => rfl, fun requests k request asked => ⟨after, ?_, fun _ => rfl⟩⟩
  rw [askAll_of_stop (ask_of_end call running) ended asked, ite_self]
  rfl

/-- A token in front of a stream answers the first request and moves the others on. -/
theorem Answers.prepend {stream : TokenStream} {last : Lexer} (answers : after.Answers stream last)
    (ask : ∀ request, lexer.ask request = (some (.ok token), after)) (more : token.isEof = false) :
    lexer.Answers (stream.prepend token) last := by
  constructor
  · intro complete
    rw [TokenStream.items_prepend more]
    exact congrArg (token :: ·) (answers.complete complete)
  · intro requests k request asked
    cases requests with
    | nil => cases asked
    | cons first rest =>
      rw [askAll, ask, TokenStream.items_prepend more]
      cases k with
      | zero => exact ⟨after, by rw [TokenStream.answer_prepend_zero more]; rfl, by simp⟩
      | succ k =>
        obtain ⟨behind, answer, settled⟩ := answers.each rest k request asked
        refine ⟨behind, ?_, ?_⟩
        · rw [List.getElem?_cons_succ, answer, TokenStream.answer_prepend_succ more]
        · rw [List.length_cons]
          exact fun beyond => settled (by omega)

theorem exists_answers (running : lexer.finished = false) : ∃ last, lexer.Answers lexer.drain last := by
  induction lexer using drain_induction with
  | stop lexer ends =>
    match call : lexer.next with
    | (.error error, after) => exact ⟨after, .of_error call⟩
    | (.ok token, after) => exact ⟨after, .of_end call running (ends token after call)⟩
  | more lexer token after call goesOn ih =>
    obtain ⟨last, answers⟩ := ih ((step_of_next call).finished.trans goesOn)
    rw [drain_of_more call goesOn]
    exact ⟨last, answers.prepend (ask_of_token call running goesOn) goesOn⟩

theorem toList_of_item {item : Except LexError Token} (step : lexer.next? = (some item, after)) :
    lexer.toList = item :: after.toList := by
  rw [toList]
  split
  · rename_i none
    cases step.symm.trans none
  · rename_i same
    cases step.symm.trans same
    rfl

theorem toList_of_none (step : lexer.next? = (none, after)) : lexer.toList = [] := by
  rw [toList]
  split
  · rfl
  · rename_i some
    cases step.symm.trans some

/-- Items asked for until there are no more are the tokens of the stream without the end, and its error. -/
theorem toList_eq (running : lexer.finished = false) :
    lexer.toList = lexer.drain.items.map .ok ++ lexer.drain.error.toList.map .error := by
  induction lexer using drain_induction with
  | stop lexer ends =>
    match call : lexer.next with
    | (.error error, after) =>
      have ended := (step_of_next call).finished_of_error
      rw [toList_of_item (ask_of_error call running .item), toList_of_none (ask_of_finished ended .item),
        drain_of_error call]
      rfl
    | (.ok token, after) =>
      have eof := ends token after call
      have none : lexer.next? = (none, after) := by simp [next?, running, call, eof]
      rw [toList_of_none none, drain_of_token call, if_pos eof]
      simp [TokenStream.items, eof]
  | more lexer token after call goesOn ih =>
    rw [toList_of_item (ask_of_token call running goesOn .item),
      ih ((step_of_next call).finished.trans goesOn), drain_of_more call goesOn,
      TokenStream.items_prepend goesOn]
    rfl

/-- There are no more items than characters ahead. -/
theorem items_drain_le (lexer : Lexer) : lexer.drain.items.length ≤ lexer.cursor.ahead.length := by
  induction lexer using drain_induction with
  | stop lexer ends =>
    match call : lexer.next with
    | (.error error, after) => simp [drain_of_error call, TokenStream.items]
    | (.ok token, after) =>
      have eof := ends token after call
      simp [drain_of_token call, eof, TokenStream.items]
  | more lexer token after call goesOn ih =>
    have shorter := ahead_next_lt call goesOn
    rw [drain_of_more call goesOn, TokenStream.items_prepend goesOn, List.length_cons]
    omega

end Lexer

/-- The tokens of the stream that have something to show, and its error. -/
theorem highlight_eq (source : String) :
    highlight source = ⟨(tokenize source).items.filterMap Token.range?, (tokenize source).error⟩ := by
  have items : (Lexer.ofText source).toList = _ := Lexer.toList_eq rfl
  unfold highlight tokenize
  simp only [items, List.filterMap_append, List.filterMap_map]
  refine (Highlights.mk.injEq ..).mpr ⟨?ranges, ?error⟩
  case ranges =>
    have quiet (errors : List LexError) : errors.filterMap (fun _ => (none : Option HighlightRange)) = [] := by
      simp
    exact (congrArg _ (quiet _)).trans (List.append_nil _)
  case error =>
    have quiet (tokens : List Token) : tokens.filterMap (fun _ => (none : Option LexError)) = [] := by simp
    rw [Function.comp_def, quiet]
    cases (Lexer.ofText source).drain.error <;> rfl

/-- Requests of either kind, mixed in any way, are answered out of the one stream of a text, which has no
more items than the text has characters. -/
theorem tokenize_answers (source : String) :
    (∃ last, (Lexer.ofText source).Answers (tokenize source) last) ∧
      (tokenize source).items.length ≤ source.toList.length :=
  ⟨Lexer.exists_answers rfl, Lexer.items_drain_le (Lexer.ofText source)⟩

end DataLexer
