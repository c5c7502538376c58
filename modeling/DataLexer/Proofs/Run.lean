import DataLexer.Proofs.Step
import DataLexer.TokenStream

namespace DataLexer

/-- The lexer behind some calls on a text, and the tokens they gave, latest first. -/
inductive Reached (source : String) : List Token → Lexer → Prop
  | start : Reached source [] (.ofText source)
  | token {past lexer token after} : Reached source past lexer → lexer.next = (.ok token, after) →
      Reached source (token :: past) after
  | failed {past lexer error after} : Reached source past lexer → lexer.next = (.error error, after) →
      Reached source past after

namespace Lexer

/-- The lexer goes on exactly behind a token that is not the end. -/
theorem Step.finished {lexer after : Lexer} {token : Token} (step : Step lexer (.ok token) after) :
    after.finished = token.isEof := by
  cases step with
  | done ended => exact ended
  | last => rfl
  | rowBreak running => exact running
  | lexeme _ _ _ passes =>
    simp [passes.running, Token.isEof, passes.kind_ne.1]

theorem Step.finished_of_error {lexer after : Lexer} {error : LexError}
    (step : Step lexer (.error error) after) : after.finished = true := by
  cases step <;> rfl

theorem Step.running_of_error {lexer after : Lexer} {error : LexError}
    (step : Step lexer (.error error) after) : lexer.finished = false := by
  cases step with
  | unclosed running => exact running
  | unbalanced meets => exact meets.running
  | unterminated meets => exact meets.running
  | unexpected meets => exact meets.running

theorem Step.running_of_token {lexer after : Lexer} {token : Token}
    (step : Step lexer (.ok token) after) (more : token.isEof = false) : lexer.finished = false := by
  cases step with
  | done => cases more
  | last => cases more
  | rowBreak running => exact running
  | lexeme meets => exact meets.running

theorem drain_of_error {lexer after : Lexer} {error : LexError}
    (call : lexer.next = (.error error, after)) : lexer.drain = ⟨[], some error⟩ := by
  rw [drain]
  split
  · rename_i same
    cases call.symm.trans same
    rfl
  · rename_i same
    cases call.symm.trans same

theorem drain_of_token {lexer after : Lexer} {token : Token} (call : lexer.next = (.ok token, after)) :
    lexer.drain = if token.isEof then ⟨[token], none⟩ else after.drain.prepend token := by
  rw [drain]
  split
  · rename_i same
    cases call.symm.trans same
  · rename_i same
    cases call.symm.trans same
    rfl

theorem drain_of_next {lexer : Lexer} {token : Token} (given : lexer.next.1 = .ok token) :
    lexer.drain = if token.isEof then ⟨[token], none⟩ else lexer.next.2.drain.prepend token :=
  drain_of_token (Prod.ext given rfl)

theorem drain_of_more {lexer after : Lexer} {token : Token} (call : lexer.next = (.ok token, after))
    (goesOn : token.isEof = false) : lexer.drain = after.drain.prepend token := by
  rw [drain_of_token call, goesOn]
  rfl

/-- Induction over what a lexer has still to give, from its end or its error back. -/
@[elab_as_elim]
theorem drain_induction {P : Lexer → Prop}
    (stop : ∀ lexer, (∀ token after, lexer.next = (.ok token, after) → token.isEof = true) → P lexer)
    (more : ∀ lexer token after, lexer.next = (.ok token, after) → token.isEof = false → P after → P lexer)
    (lexer : Lexer) : P lexer := by
  induction size : lexer.cursor.ahead.length using Nat.strongRecOn generalizing lexer with
  | _ n ih =>
    match call : lexer.next with
    | (.error error, after) => exact stop lexer fun _ _ call' => by cases call.symm.trans call'
    | (.ok token, after) =>
      cases last : token.isEof with
      | true =>
        refine stop lexer fun _ _ call' => ?_
        cases call.symm.trans call'
        exact last
      | false => exact more lexer token after call last (ih _ (size ▸ ahead_next_lt call last) _ rfl)

theorem drain_cons {lexer : Lexer} {token : Token} {rest : List Token} {error : Option LexError}
    (drained : lexer.drain = ⟨token :: rest, error⟩) :
    ∃ after, lexer.next = (.ok token, after) ∧
      (token.isEof = true ∧ rest = [] ∧ error = none ∨
        token.isEof = false ∧ after.finished = false ∧ after.drain = ⟨rest, error⟩) := by
  match call : lexer.next with
  | (.error reason, after) =>
    rw [drain_of_error call] at drained
    cases drained
  | (.ok first, after) =>
    rw [drain_of_token call] at drained
    split at drained
    · rename_i last
      cases drained
      exact ⟨after, rfl, Or.inl ⟨last, rfl, rfl⟩⟩
    · rename_i more
      have going : first.isEof = false := by simpa using more
      cases drained
      exact ⟨after, rfl, Or.inr ⟨going, (step_of_next call).finished.trans going, rfl⟩⟩

theorem drain_nil {lexer : Lexer} {error : Option LexError} (drained : lexer.drain = ⟨[], error⟩) :
    ∃ reason after, lexer.next = (.error reason, after) ∧ error = some reason := by
  match call : lexer.next with
  | (.error reason, after) =>
    rw [drain_of_error call] at drained
    cases drained
    exact ⟨reason, after, rfl, rfl⟩
  | (.ok first, after) =>
    rw [drain_of_token call] at drained
    split at drained <;> cases drained

end Lexer

/-- The state before the last token. -/
theorem Reached.before {source : String} {past : List Token} {token : Token} {lexer : Lexer}
    (reached : Reached source (token :: past) lexer) (running : lexer.finished = false) :
    ∃ before, Reached source past before ∧ before.finished = false ∧
      before.Step (.ok token) lexer ∧ token.isEof = false := by
  cases reached with
  | token earlier call =>
    have step := Lexer.step_of_next call
    have more := step.finished.symm.trans running
    exact ⟨_, earlier, step.running_of_token more, step, more⟩
  | failed _ call => exact absurd (Lexer.step_of_next call).finished_of_error (by simp [running])

namespace Reached

variable {source : String} {past : List Token} {lexer : Lexer}

/-- The tokens given so far and those still to come are the whole stream. -/
theorem tokenize (reached : Reached source past lexer) (running : lexer.finished = false) :
    DataLexer.tokenize source = ⟨past.reverse ++ lexer.drain.tokens, lexer.drain.error⟩ := by
  induction reached with
  | start => rfl
  | @token past before token after _ call ih =>
    have step := Lexer.step_of_next call
    have more : token.isEof = false := step.finished.symm.trans running
    rw [ih (step.running_of_token more), Lexer.drain_of_token call, more]
    simp [TokenStream.prepend]
  | failed _ call => exact absurd (Lexer.step_of_next call).finished_of_error (by simp [running])

theorem tokenize_of_error {error : LexError} {after : Lexer} (reached : Reached source past lexer)
    (call : lexer.next = (.error error, after)) :
    DataLexer.tokenize source = ⟨past.reverse, some error⟩ := by
  rw [reached.tokenize (Lexer.step_of_next call).running_of_error, Lexer.drain_of_error call]
  simp

end Reached

/-- Every cut of a stream is a state of the lexer, unless the text is over there. -/
theorem reached_of_append {source : String} {earlier later : List Token} {error : Option LexError}
    (stream : tokenize source = ⟨earlier ++ later, error⟩) (more : later ≠ [] ∨ error ≠ none) :
    ∃ lexer, Reached source earlier.reverse lexer ∧ lexer.finished = false ∧
      lexer.drain = ⟨later, error⟩ := by
  -- from every state on the way, so that the state moves on as `earlier` is taken apart
  have from_state : ∀ past lexer, Reached source past lexer → lexer.finished = false →
      lexer.drain = ⟨earlier ++ later, error⟩ →
      ∃ last, Reached source (earlier.reverse ++ past) last ∧ last.finished = false ∧
        last.drain = ⟨later, error⟩ := by
    clear stream
    induction earlier with
    | nil => exact fun past lexer reached running drained => ⟨lexer, reached, running, drained⟩
    | cons token earlier ih =>
      intro past lexer reached running drained
      obtain ⟨after, call, ⟨_, none, fine⟩ | ⟨_, goesOn, rest⟩⟩ := Lexer.drain_cons drained
      · have empty := (List.append_eq_nil_iff.mp none).2
        exact absurd more (by simp [empty, fine])
      · obtain ⟨last, found⟩ := ih _ _ (reached.token call) goesOn rest
        exact ⟨last, by simpa using found⟩
  simpa using from_state [] _ .start rfl stream

theorem reached_of_token {source : String} {earlier later : List Token} {token : Token}
    (split : (tokenize source).tokens = earlier ++ token :: later) :
    ∃ lexer after, Reached source earlier.reverse lexer ∧ lexer.finished = false ∧
      lexer.next = (.ok token, after) := by
  have stream : tokenize source = ⟨earlier ++ token :: later, (tokenize source).error⟩ := by
    rw [← split]
  obtain ⟨lexer, reached, running, drained⟩ := reached_of_append stream (Or.inl (by simp))
  obtain ⟨after, call, _⟩ := Lexer.drain_cons drained
  exact ⟨lexer, after, reached, running, call⟩

theorem reached_of_error {source : String} {error : LexError}
    (failed : (tokenize source).error = some error) :
    ∃ lexer after, Reached source (tokenize source).tokens.reverse lexer ∧
      lexer.next = (.error error, after) := by
  have stream : tokenize source = ⟨(tokenize source).tokens ++ [], some error⟩ := by
    rw [List.append_nil, ← failed]
  obtain ⟨lexer, reached, _, drained⟩ := reached_of_append stream (Or.inr (by simp))
  obtain ⟨reason, after, call, same⟩ := Lexer.drain_nil drained
  cases same
  exact ⟨lexer, after, reached, call⟩

/-- A text without an error is read up to the one token for its end, with nothing left open. -/
theorem reached_of_complete {source : String} (complete : (tokenize source).error = none) :
    ∃ past lexer after, Reached source past lexer ∧ lexer.finished = false ∧
      lexer.settled.cursor.ahead = [] ∧ lexer.frames = [] ∧
      lexer.next = (.ok (.atEnd lexer.settled.cursor.place), after) ∧
      (tokenize source).tokens = past.reverse ++ [.atEnd lexer.settled.cursor.place] := by
  rcases List.eq_nil_or_concat (tokenize source).tokens with empty | ⟨init, last, tokens⟩
  · have drained : (Lexer.ofText source).drain = ⟨[], none⟩ := by
      rw [← empty, ← complete]
      rfl
    obtain ⟨_, _, _, same⟩ := Lexer.drain_nil drained
    cases same
  · rw [List.concat_eq_append] at tokens
    have stream : tokenize source = ⟨init ++ [last], none⟩ := by rw [← tokens, ← complete]
    obtain ⟨lexer, reached, running, drained⟩ := reached_of_append stream (Or.inl (by simp))
    obtain ⟨after, call, ⟨eof, _, _⟩ | ⟨_, _, rest⟩⟩ := Lexer.drain_cons drained
    · have step := Lexer.step_of_next call
      cases step with
      | done ended => exact absurd running (by simp [ended])
      | last _ nothing closed =>
        exact ⟨init.reverse, lexer, _, reached, running, nothing, closed, call, by simpa using tokens⟩
      | rowBreak => cases eof
      | lexeme _ _ _ passes => simp [Token.isEof, passes.kind_ne.1] at eof
    · obtain ⟨_, _, _, same⟩ := Lexer.drain_nil rest
      cases same

end DataLexer
