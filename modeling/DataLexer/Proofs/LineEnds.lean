import DataLexer.Proofs.Grammar

namespace DataLexer

/-- The two characters of a line end stand on the two sides of a cut. -/
def SplitsLineEnd (text after : List Char) : Prop :=
  text.getLast? = some '\r' ∧ after.head? = some '\n'

/-- A string runs up to a backslash before carriage return and line feed. -/
def EscapesLineEnd (text : List Char) : Prop :=
  ∃ body more, text = '"' :: body ++ '\\' :: '\r' :: '\n' :: more ∧ StringBody body

/-- Where tokens and errors end. -/
structure LineEndLaw (source : String) : Prop where
  tokens : ∀ token ∈ (tokenize source).tokens, token.kind ≠ .newline → ∃ before after,
    token.span.Cuts source.toList before token.text.toList after ∧ '\n' ∉ token.text.toList ∧
      ¬ SplitsLineEnd token.text.toList after
  error : ∀ error, (tokenize source).error = some error → ∃ before text after,
    error.span.Cuts source.toList before text after ∧ '\n' ∉ text ∧
      (SplitsLineEnd text after ↔ EscapesLineEnd (text ++ after))

namespace Reading

theorem stringTail_of_escapedReturn {body : List Char} (inside : StringBody body) (more : List Char) :
    stringTail (body ++ '\\' :: '\r' :: '\n' :: more) = (body ++ ['\\', '\r'], false) :=
  stringTail_append_of_stringBody inside (by simp)

/-- A string without an end takes the carriage return of its line only behind a backslash. -/
theorem escapedReturn_of_stringTail {rest tail more : List Char}
    (opened : stringTail rest = (tail, false)) (split : rest = tail ++ '\n' :: more)
    (last : tail.getLast? = some '\r') : ∃ body, tail = body ++ ['\\', '\r'] ∧ StringBody body := by
  fun_induction stringTail rest generalizing tail with
  | case1 | case3 | case4 | case5 | case6 =>
    cases opened
    simp at last
  | case2 => cases opened
  | case7 c rest feed inner closed read ih =>
    obtain ⟨rfl, rfl⟩ := Prod.mk.inj opened
    have split' : rest = inner ++ '\n' :: more := by simpa using split
    cases inner with
    | nil =>
      obtain rfl : c = '\r' := by simpa using last
      exact ⟨[], rfl, .nil⟩
    | cons =>
      obtain ⟨body, same, inside⟩ := ih read split' (by simpa using last)
      exact ⟨'\\' :: c :: body, by rw [same]; rfl, .taken feed inside⟩
  | case8 c rest quote feed returned alone escaped escape inner closed read ih =>
    obtain ⟨rfl, rfl⟩ := Prod.mk.inj opened
    have split' : rest = inner ++ '\n' :: more := by simpa using split
    cases inner with
    | nil =>
      obtain rfl : c = '\r' := by simpa using last
      exact (returned more rfl split').elim
    | cons =>
      obtain ⟨body, same, inside⟩ := ih read split' (by simpa using last)
      exact ⟨c :: body, by rw [same]; rfl, .plain quote (ne_backslash alone escape) feed inside⟩

theorem isDigit_or_dot_of_mem_numberTail {rest : List Char} {d : Char} (inside : d ∈ numberTail rest) :
    d.isDigit = true ∨ d = '.' := by
  fun_induction numberTail rest with
  | case1 | case3 => cases inside
  | case2 c rest goesOn ih =>
    rcases List.mem_cons.mp inside with rfl | later
    · simp only [Bool.or_eq_true, Bool.and_eq_true, decide_eq_true_eq] at goesOn
      exact goesOn.imp_right And.left
    · exact ih later

/-- A string that runs on is cut off between carriage return and line feed where a backslash stands before
both. -/
theorem splitsLineEnd_iff_of_stringTail {rest tail after : List Char}
    (opened : stringTail rest = (tail, false)) (split : rest = tail ++ after) :
    SplitsLineEnd ('"' :: tail) after ↔ EscapesLineEnd ('"' :: rest) := by
  constructor
  · rintro ⟨last, feed⟩
    obtain ⟨more, rfl⟩ := List.head?_eq_some_iff.mp feed
    have returned : tail.getLast? = some '\r' := by
      cases tail with
      | nil => simp at last
      | cons => simpa using last
    obtain ⟨body, rfl, inside⟩ := escapedReturn_of_stringTail opened split returned
    exact ⟨body, more, by simp [split], inside⟩
  · rintro ⟨body, more, same, inside⟩
    have text : rest = body ++ '\\' :: '\r' :: '\n' :: more := (List.cons.inj same).2
    rw [text, stringTail_of_escapedReturn inside] at opened
    obtain ⟨rfl, _⟩ := Prod.mk.inj opened
    obtain rfl : '\n' :: more = after := by simpa [text] using split
    exact ⟨by simp [List.getLast?_cons], rfl⟩

theorem splitsLineEnd_iff_of_character {c : Char} {rest : List Char} (solid : isBlank c = false)
    (quote : c ≠ '"') : SplitsLineEnd [c] rest ↔ EscapesLineEnd (c :: rest) := by
  refine iff_of_false ?_ ?_
  · rintro ⟨last, _⟩
    obtain rfl : c = '\r' := by simpa using last
    exact absurd solid (by decide)
  · rintro ⟨_, _, same, _⟩
    exact quote (List.cons.inj same).1

end Reading

/-- A lexeme ends before the end of its line or with it. -/
theorem Form.Spells.not_splitsLineEnd {c : Char} {tail after : List Char} {form : Form}
    (spells : form.Spells c (tail ++ after) tail) (solid : isBlank c = false) :
    ¬ SplitsLineEnd (c :: tail) after := by
  rintro ⟨last, feed⟩
  have returned : tail.getLast? = some '\r' := by
    cases tail with
    | nil =>
      obtain rfl : c = '\r' := by simpa using last
      exact absurd solid (by decide)
    | cons => simpa using last
  have inside : '\r' ∈ tail := List.mem_of_getLast? returned
  cases form with
  | comment =>
    obtain ⟨_, _, unreturned⟩ := Reading.commentTail_append_iff.mp spells.2.symm
    exact unreturned feed returned
  | string =>
    obtain ⟨body, rfl, _⟩ := Reading.stringBody_of_closed spells.2
    simp at returned
  | number =>
    rw [spells.2] at inside
    rcases Reading.isDigit_or_dot_of_mem_numberTail inside with digit | dot
    · exact absurd digit (by decide)
    · exact absurd dot (by decide)
  | name =>
    rw [spells.2] at inside
    have keeps := List.all_eq_true.mp List.all_takeWhile _ inside
    rw [isNameChar_of_isBlank (by decide)] at keeps
    cases keeps
  | colon | comma | opening | closing =>
    rw [spells.2] at inside
    cases inside

/-- What an error is about holds no line feed, and only a string that a backslash runs on can end within a
line end. -/
theorem Lexer.Step.fault_lineEnd {lexer after : Lexer} {error : LexError}
    (step : Step lexer (.error error) after) : ∃ text rest,
      lexer.settled.cursor.ahead = text ++ rest ∧ '\n' ∉ text ∧
        (SplitsLineEnd text rest ↔ EscapesLineEnd (text ++ rest)) ∧
        error.span = lexer.settled.cursor.place.upTo (lexer.settled.cursor.place.after text) := by
  have character {c : Char} {rest : List Char} (meets : lexer.Meets c rest) (quote : c ≠ '"') :
      '\n' ∉ [c] ∧ (SplitsLineEnd [c] rest ↔ EscapesLineEnd ([c] ++ rest)) := by
    have solid := isBlank_head_settled meets.here
    refine ⟨?_, Reading.splitsLineEnd_iff_of_character solid quote⟩
    intro feed
    rw [← List.mem_singleton.mp feed] at solid
    exact absurd solid (by decide)
  cases step with
  | unclosed _ nothing =>
    exact ⟨[], [], nothing, List.not_mem_nil, by simp [SplitsLineEnd, EscapesLineEnd], rfl⟩
  | @unbalanced c rest delimiter meets closes =>
    have quote : c ≠ '"' := by
      rw [closes]
      cases delimiter <;> decide
    obtain ⟨plain, splits⟩ := character meets quote
    exact ⟨[c], rest, meets.here, plain, splits, rfl⟩
  | @unterminated rest tail meets opened =>
    obtain ⟨more, split, _⟩ := Reading.stringTail_append_of_open opened
    have plain := Reading.stringTail_no_feed rest
    rw [opened] at plain
    have splits := Reading.splitsLineEnd_iff_of_stringTail opened split
    have here := meets.here
    rw [split] at here splits
    exact ⟨'"' :: tail, more, here, List.not_mem_cons_of_ne_of_not_mem (by decide) plain, splits, rfl⟩
  | @unexpected c rest meets reading =>
    obtain ⟨plain, splits⟩ := character meets (Reading.ofText_eq_unexpected_iff.mp reading).1
    exact ⟨[c], rest, meets.here, plain, splits, rfl⟩

namespace Reached

variable {source : String} {past : List Token} {lexer after : Lexer}

theorem cuts_token {token : Token} (reached : Reached source past lexer)
    (running : lexer.finished = false) (call : lexer.next = (.ok token, after))
    (unbroken : token.kind ≠ .newline) : ∃ before behind,
      token.span.Cuts source.toList before token.text.toList behind ∧ '\n' ∉ token.text.toList ∧
        ¬ SplitsLineEnd token.text.toList behind := by
  have settled := (reached.standing running).settled
  have step := Lexer.step_of_next call
  cases step with
  | done ended => exact absurd running (by simp [ended])
  | last _ nothing =>
    have whole := settled.whole
    rw [nothing] at whole
    have start : (Token.atEnd lexer.settled.cursor.place).span.start =
        byteLength lexer.settled.cursor.read := by
      simp [Token.atEnd, Position.point, Position.upTo, settled.place]
    refine ⟨lexer.settled.cursor.read, [], ⟨?_, start, ?_⟩, List.not_mem_nil, ?_⟩
    · simpa [Token.atEnd] using whole.symm
    · rw [Token.atEnd, String.toList_empty, List.append_nil]
      exact start
    · simp [Token.atEnd, SplitsLineEnd]
  | rowBreak => exact absurd rfl unbroken
  | @lexeme c rest tail form _ _ meets spells fits passes =>
    have stop := (reached.token call).stop passes.running unbroken
    have whole := settled.whole
    rw [passes.ahead, ← List.append_assoc] at whole
    obtain ⟨_, split⟩ := List.cons.inj (meets.here.symm.trans passes.ahead)
    have text : token.text.toList = c :: tail := by rw [passes.text, String.toList_ofList]
    have before : token.span.start = byteLength lexer.settled.cursor.read := by
      rw [passes.span, settled.place]
      exact Position.behind_offset _
    rw [split] at spells
    rw [text]
    refine ⟨_, _, ⟨whole.symm, before, by rw [stop, passes.read]⟩, ?_, ?_⟩
    · exact spells.no_feed
    · exact spells.not_splitsLineEnd (Lexer.isBlank_head_settled meets.here)

theorem cuts_error {error : LexError} (reached : Reached source past lexer)
    (step : lexer.Step (.error error) after) : ∃ before text behind,
      error.span.Cuts source.toList before text behind ∧ '\n' ∉ text ∧
        (SplitsLineEnd text behind ↔ EscapesLineEnd (text ++ behind)) := by
  have standing := reached.standing step.running_of_error
  obtain ⟨text, rest, ahead, plain, splits, span⟩ := step.fault_lineEnd
  have whole := standing.settled.whole
  rw [ahead, ← List.append_assoc] at whole
  rw [standing.started.after ahead, standing.started.place] at span
  refine ⟨_, text, rest, ⟨whole.symm, ?_, ?_⟩, plain, splits⟩
  · rw [span]
    exact Position.behind_offset _
  · rw [span]
    exact Position.behind_offset _

end Reached

/-- Tokens and errors end before the end of their line or with it, except for a string that is cut off
behind a carriage return that its last backslash takes. -/
theorem tokenize_lineEnds (source : String) : LineEndLaw source where
  tokens := by
    intro token member unbroken
    obtain ⟨earlier, later, split⟩ := List.append_of_mem member
    obtain ⟨lexer, after, reached, running, call⟩ := reached_of_token split
    exact reached.cuts_token running call unbroken
  error := by
    intro error failed
    obtain ⟨lexer, after, reached, call⟩ := reached_of_error failed
    exact reached.cuts_error (Lexer.step_of_next call)

/-- A backslash at the end of a line takes the carriage return and leaves the line feed behind. -/
theorem lineEnd_split_by_backslash :
    ∃ error before text after, (tokenize "\"\\\r\n").error = some error ∧
      error.span.Cuts "\"\\\r\n".toList before text after ∧ SplitsLineEnd text after := by
  have stops : (Lexer.ofText "\"\\\r\n").next.1 = .error (.unterminatedString ⟨0, 3, 1, 1⟩) := by decide
  have failed : (tokenize "\"\\\r\n").error = some (.unterminatedString ⟨0, 3, 1, 1⟩) := by
    rw [tokenize, Lexer.drain_of_error (Prod.ext stops rfl)]
  exact ⟨_, [], ['"', '\\', '\r'], ['\n'], failed, ⟨rfl, rfl, rfl⟩, rfl, rfl⟩

end DataLexer
