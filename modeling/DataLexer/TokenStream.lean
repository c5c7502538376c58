import DataLexer.Lexer

namespace DataLexer

namespace Lexer

theorem ahead_accept {lexer : Lexer} {size : Nat} {kind : TokenKind} {frames : List Frame}
    {head : TableHead} :
    (lexer.accept size kind frames head).2.cursor.ahead = lexer.cursor.ahead.drop size := rfl

theorem ahead_close {lexer : Lexer} {delimiter : Delimiter} :
    (lexer.close delimiter).2.cursor.ahead = lexer.cursor.ahead.drop 1 := by
  unfold close
  split
  · rfl
  · dsimp only
    split <;> rfl

theorem ahead_take_lt {lexer : Lexer} (more : lexer.cursor.ahead ≠ []) (size : Nat) (form : Form) :
    (lexer.take (size + 1) form).2.cursor.ahead.length < lexer.cursor.ahead.length := by
  have positive := List.length_pos_iff.mpr more
  cases form <;> simp only [take, ahead_accept, ahead_close, List.length_drop] <;> omega

theorem ahead_scan_lt {lexer : Lexer} {c : Char} {rest : List Char} (here : lexer.cursor.ahead = c :: rest)
    {token : Token} {after : Lexer} (step : lexer.scan c rest = (.ok token, after)) :
    after.cursor.ahead.length < lexer.cursor.ahead.length := by
  unfold scan at step
  split at step
  · rename_i form tail _
    have shorter := ahead_take_lt (by simp [here] : lexer.cursor.ahead ≠ []) tail.length form
    rwa [step] at shorter
  · cases step
  · cases step

theorem ahead_skipByteOrderMark_le (cursor : Cursor) :
    cursor.skipByteOrderMark.ahead.length ≤ cursor.ahead.length := by
  unfold Cursor.skipByteOrderMark
  split
  · simp [Cursor.advance, Cursor.advanceBy]
  · exact Nat.le_refl _

theorem ahead_advanceWhile_le (cursor : Cursor) (keep : Char → Bool) :
    (cursor.advanceWhile keep).ahead.length ≤ cursor.ahead.length := by
  simp [Cursor.advanceWhile, Cursor.advanceBy]

/-- A line feed in the gap is skipped with the gap. -/
theorem ahead_advanceWhile_lt {cursor : Cursor} {span : Span} (found : cursor.lineFeed? = some span) :
    (cursor.advanceWhile isBlank).ahead.length < cursor.ahead.length := by
  unfold Cursor.lineFeed? at found
  dsimp only at found
  split at found
  · rename_i member
    have blank := List.length_pos_of_mem member
    have bound := (List.takeWhile_sublist (l := cursor.ahead) isBlank).length_le
    simp only [Cursor.advanceWhile, Cursor.advanceBy, List.length_drop]
    omega
  · cases found

/-- Every token but the end takes something off the text ahead. -/
theorem ahead_next_lt {lexer after : Lexer} {token : Token} (step : lexer.next = (.ok token, after))
    (more : token.isEof = false) : after.cursor.ahead.length < lexer.cursor.ahead.length := by
  have skipped := ahead_skipByteOrderMark_le lexer.cursor
  have blank := ahead_advanceWhile_le lexer.cursor.skipByteOrderMark isBlank
  unfold next at step
  split at step
  · cases step; simp [Token.isEof, Token.atEnd] at more
  · dsimp only at step
    split at step
    · unfold finish at step
      split at step
      · cases step; simp [Token.isEof, Token.atEnd] at more
      · cases step
    · rename_i here
      split at step
      · rename_i found
        split at step
        · cases step
          exact Nat.lt_of_lt_of_le (ahead_advanceWhile_lt found) skipped
        · exact Nat.lt_of_lt_of_le (ahead_scan_lt here step) (Nat.le_trans blank skipped)
      · exact Nat.lt_of_lt_of_le (ahead_scan_lt here step) (Nat.le_trans blank skipped)

theorem finished_of_take_error {lexer after : Lexer} {size : Nat} {form : Form} {error : LexError}
    (step : lexer.take size form = (.error error, after)) : after.finished = true := by
  cases form with
  | closing delimiter =>
    simp only [take, close] at step
    split at step
    · cases step; rfl
    · split at step
      · cases step
      · cases step; rfl
  | _ => cases step

theorem finished_of_scan_error {lexer after : Lexer} {c : Char} {rest : List Char} {error : LexError}
    (step : lexer.scan c rest = (.error error, after)) : after.finished = true := by
  unfold scan at step
  split at step
  · exact finished_of_take_error step
  · cases step; rfl
  · cases step; rfl

/-- An error ends the pass. -/
theorem finished_of_next_error {lexer after : Lexer} {error : LexError}
    (step : lexer.next = (.error error, after)) : after.finished = true := by
  unfold next at step
  split at step
  · cases step
  · dsimp only at step
    split at step
    · unfold finish at step
      split at step
      · cases step
      · cases step; rfl
    · split at step
      · split at step
        · cases step
        · exact finished_of_scan_error step
      · exact finished_of_scan_error step

/-- Every item takes something off the text ahead, or it is the last one. -/
theorem next?_item {lexer after : Lexer} {item : Except LexError Token}
    (step : lexer.next? = (some item, after)) :
    lexer.finished = false ∧
      (after.finished = true ∨ after.cursor.ahead.length < lexer.cursor.ahead.length) := by
  unfold next? at step
  split at step
  · cases step
  · rename_i running
    refine ⟨by simpa using running, ?_⟩
    split at step
    · rename_i call
      split at step
      · cases step
      · rename_i more
        cases step
        exact Or.inr (ahead_next_lt call (by simpa using more))
    · rename_i call
      cases step
      exact Or.inl (finished_of_next_error call)

/-- The items that a lexer has still to give: its tokens without the end of the text, and the error that
stops it. -/
def toList (lexer : Lexer) : List (Except LexError Token) :=
  match _step : lexer.next? with
  | (none, _) => []
  | (some item, after) => item :: after.toList
termination_by (lexer.finished.not.toNat, lexer.cursor.ahead.length)
decreasing_by
  obtain ⟨running, ended | shorter⟩ := next?_item _step
  · rw [running, ended]
    exact .left _ _ Nat.one_pos
  · rw [running]
    cases after.finished with
    | true => exact .left _ _ Nat.one_pos
    | false => exact .right _ shorter

end Lexer

/-- The tokens of a document in order. Without an error the last one is the end of the text; with an
error they are the tokens before it. -/
structure TokenStream where
  tokens : List Token
  error : Option LexError
deriving DecidableEq

namespace TokenStream

def prepend (token : Token) (stream : TokenStream) : TokenStream :=
  { stream with tokens := token :: stream.tokens }

def isComplete (stream : TokenStream) : Bool := stream.error.isNone

def kinds (stream : TokenStream) : List TokenKind := stream.tokens.map (·.kind)

end TokenStream

/-- All that a lexer has still to give. -/
def Lexer.drain (lexer : Lexer) : TokenStream :=
  match _step : lexer.next with
  | (.error error, _) => ⟨[], some error⟩
  | (.ok token, after) =>
    if _last : token.isEof then ⟨[token], none⟩
    else after.drain.prepend token
termination_by lexer.cursor.ahead.length
decreasing_by exact ahead_next_lt _step (by simpa using _last)

def tokenize (source : String) : TokenStream := (Lexer.ofText source).drain

end DataLexer
