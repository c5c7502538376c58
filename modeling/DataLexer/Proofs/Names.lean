import DataLexer.Proofs.Cover
import DataLexer.Proofs.History
import DataLexer.Proofs.Start

namespace DataLexer

/-- The innermost bracket that a history leaves open holds a list of columns. -/
def InColumns (past : List Token) : Prop :=
  ∃ opening, (unmatched past).head? = some opening ∧ OpensColumns opening

/-- The first of the tokens `later` is a colon, and no line feed stands between `name` and it. -/
def ColonBehind (source : String) (name : Token) (later : List Token) : Prop :=
  ∃ colon rest text, later = colon :: rest ∧ colon.kind = .colon ∧
    slice? source.toList name.span.stop colon.span.start = some text ∧ '\n' ∉ text

/-- What kind the token `name` has between the tokens before it, latest first, and those behind it. -/
structure NameLaw (source : String) (past : List Token) (name : Token) (later : List Token) : Prop where
  columns : InColumns past → name.kind = .key
  key : ¬ InColumns past → (name.kind = .key ↔ ColonBehind source name later)
  word : name.kind ≠ .key → name.kind =
    if name.text = "table" then .tableKeyword
    else if name.text = "true" ∨ name.text = "false" then .boolean
    else .identifier

theorem TokenKind.getD_ofWord? (word : String) : (TokenKind.ofWord? word).getD .identifier =
    if word = "table" then tableKeyword
    else if word = "true" ∨ word = "false" then boolean
    else identifier := by
  unfold TokenKind.ofWord?
  split
  · rfl
  · split <;> rfl

theorem TokenKind.getD_ofWord?_ne_key (word : String) :
    (TokenKind.ofWord? word).getD .identifier ≠ .key := by
  rw [getD_ofWord?]
  split
  · simp
  · split <;> simp

theorem Lexer.nameKind_eq_key_iff {lexer : Lexer} {name rest : List Char} :
    lexer.nameKind name rest = .key ↔
      lexer.frames.head?.any (·.role = .columns) = true ∨ ColonNext rest := by
  unfold nameKind ColonNext
  split
  · rename_i key
    simpa using key
  · rename_i other
    simpa [TokenKind.getD_ofWord?_ne_key] using other

theorem Lexer.nameKind_of_ne_key {lexer : Lexer} {name rest : List Char}
    (other : lexer.nameKind name rest ≠ .key) :
    lexer.nameKind name rest = (TokenKind.ofWord? (String.ofList name)).getD .identifier := by
  unfold nameKind at other ⊢
  split at other
  · exact absurd rfl other
  · rename_i plain
    rw [if_neg plain]

/-- A token that begins as a name is one. -/
theorem Lexer.Step.name {lexer after : Lexer} {token : Token} (step : Step lexer (.ok token) after)
    (begins : token.text.toList.head?.any isNameStart = true) :
    ∃ c tail, lexer.Passes .name c tail token after := by
  cases step with
  | done | last => cases begins
  | rowBreak => simp [show isNameStart '\n' = false by decide] at begins
  | @lexeme c rest tail form _ _ _ spells _ passes =>
    have start : isNameStart c = true := by simpa [passes.text] using begins
    have name : Form.name.Spells c rest (rest.takeWhile isNameChar) := ⟨start, rfl⟩
    obtain ⟨rfl, _⟩ := spells.unique name
    exact ⟨c, tail, passes⟩

namespace Reached

variable {source : String} {past : List Token} {lexer : Lexer} {name : Token}

/-- The lexer knows whether it stands in a list of columns. -/
theorem inColumns_iff (reached : Reached source past lexer) :
    lexer.frames.head?.any (·.role = .columns) = true ↔ InColumns past := by
  have tells := reached.tells.frames
  rw [Option.any_eq_true]
  constructor
  · rintro ⟨frame, innermost, columns⟩
    obtain ⟨opening, opened, records⟩ := forall₂_head? tells innermost
    refine ⟨opening, opened, ?_⟩
    cases opening with
    | nil => exact records.elim
    | cons token before => exact records.2.2.1.mp (of_decide_eq_true columns)
  · rintro ⟨opening, opened, columns⟩
    obtain ⟨frame, innermost, records⟩ := forall₂_head? tells.flip opened
    refine ⟨frame, innermost, ?_⟩
    cases opening with
    | nil => exact columns.elim
    | cons token before => exact decide_eq_true (records.2.2.1.mpr columns)

/-- The colon that is next on the line is the next token, and there is no other such token. -/
theorem colonNext_iff (reached : Reached source (name :: past) lexer) (running : lexer.finished = false)
    (solid : name.kind ≠ .newline) :
    ColonNext lexer.cursor.ahead ↔ ColonBehind source name lexer.drain.tokens := by
  have gap := reached.slice_gap running solid
  have place : lexer.settled.cursor.place.offset = byteLength lexer.settled.cursor.read := by
    rw [(reached.standing running).settled.place, Position.behind_offset]
  rw [Lexer.colonNext_iff (reached.started running (by simp))]
  constructor
  · rintro ⟨head, plain⟩
    obtain ⟨rest, here⟩ := List.head?_eq_some_iff.mp head
    have meets : lexer.Meets ':' rest := ⟨running, here, fun breaks => plain breaks.1⟩
    have spells : Form.colon.Spells ':' rest [] := ⟨rfl, rfl⟩
    obtain ⟨colon, after, call, passes⟩ := meets.takes spells trivial
    have goesOn : colon.isEof = false := by simp [Token.isEof, passes.kind_ne.1]
    refine ⟨colon, after.drain.tokens, lexer.gap, ?_, passes.kind, ?_, plain⟩
    · rw [Lexer.drain_of_more call goesOn]
      rfl
    · rw [passes.span, ← gap, ← place]
      rfl
  · rintro ⟨colon, rest, text, tokens, kind, cut, plain⟩
    have drained : lexer.drain = ⟨colon :: rest, lexer.drain.error⟩ := by rw [← tokens]
    obtain ⟨after, call, _⟩ := Lexer.drain_cons drained
    cases Lexer.step_of_next call with
    | done | last | rowBreak => cases kind
    | @lexeme c rest _ form _ _ meets spells _ passes =>
      have colon := passes.form
      rw [kind] at colon
      obtain rfl : c = ':' := spells.colon_iff.mpr (Option.some.inj colon).symm
      refine ⟨by simp [meets.here], ?_⟩
      rw [passes.span] at cut
      have start : (lexer.settled.cursor.place.upTo after.cursor.place).start =
          byteLength lexer.settled.cursor.read := place
      rw [start] at cut
      cases gap.symm.trans cut
      exact plain

theorem nameLaw (reached : Reached source past lexer) {after : Lexer} (call : lexer.next = (.ok name, after))
    (begins : name.text.toList.head?.any isNameStart = true) :
    NameLaw source past name after.drain.tokens := by
  obtain ⟨c, tail, passes⟩ := (Lexer.step_of_next call).name begins
  have kind : name.kind = lexer.nameKind (c :: tail) after.cursor.ahead := passes.kind
  have colon := colonNext_iff (reached.token call) passes.running passes.kind_ne.2
  constructor
  · intro columns
    rw [kind, Lexer.nameKind_eq_key_iff, reached.inColumns_iff]
    exact Or.inl columns
  · intro other
    rw [kind, Lexer.nameKind_eq_key_iff, reached.inColumns_iff, colon, or_iff_right other]
  · intro noKey
    rw [kind] at noKey
    rw [kind, Lexer.nameKind_of_ne_key noKey, TokenKind.getD_ofWord?, passes.text]

end Reached

/-- Every name of a text, read to its end or not, has the kind that its bracket, the next token and its
spelling give it. -/
theorem tokenize_names (source : String) {earlier later : List Token} {name : Token}
    (split : (tokenize source).tokens = earlier ++ name :: later)
    (begins : name.text.toList.head?.any isNameStart = true) :
    NameLaw source earlier.reverse name later := by
  obtain ⟨lexer, after, reached, running, call⟩ := reached_of_token split
  obtain ⟨_, _, passes⟩ := (Lexer.step_of_next call).name begins
  have stream := (reached.token call).tokenize passes.running
  have behind : later = after.drain.tokens := by
    have same := congrArg TokenStream.tokens stream
    rw [split] at same
    simpa using same
  rw [behind]
  exact reached.nameLaw call begins

/-- A reserved word in a list of columns that is never closed is a key. -/
theorem key_in_open_columns :
    (tokenize "table(true").tokens =
        [⟨.tableKeyword, "table", ⟨0, 5, 1, 1⟩⟩, ⟨.parenOpen, "(", ⟨5, 6, 1, 6⟩⟩] ++
          ⟨.key, "true", ⟨6, 10, 1, 7⟩⟩ :: [] ∧
      NameLaw "table(true"
        [⟨.parenOpen, "(", ⟨5, 6, 1, 6⟩⟩, ⟨.tableKeyword, "table", ⟨0, 5, 1, 1⟩⟩]
        ⟨.key, "true", ⟨6, 10, 1, 7⟩⟩ [] := by
  have word : (Lexer.ofText "table(true").next.1 = .ok ⟨.tableKeyword, "table", ⟨0, 5, 1, 1⟩⟩ := by
    decide
  have paren : (Lexer.ofText "table(true").next.2.next.1 = .ok ⟨.parenOpen, "(", ⟨5, 6, 1, 6⟩⟩ := by
    decide
  have column : (Lexer.ofText "table(true").next.2.next.2.next.1 = .ok ⟨.key, "true", ⟨6, 10, 1, 7⟩⟩ := by
    decide
  have stops : (Lexer.ofText "table(true").next.2.next.2.next.2.next.1 =
      .error (.unbalancedDelimiter none ⟨10, 10, 1, 11⟩ (some ⟨.paren, ⟨5, 6, 1, 6⟩⟩)) := by
    decide
  have stream : (tokenize "table(true").tokens =
      [⟨.tableKeyword, "table", ⟨0, 5, 1, 1⟩⟩, ⟨.parenOpen, "(", ⟨5, 6, 1, 6⟩⟩] ++
        ⟨.key, "true", ⟨6, 10, 1, 7⟩⟩ :: [] := by
    rw [tokenize, Lexer.drain_of_next word, Lexer.drain_of_next paren, Lexer.drain_of_next column,
      Lexer.drain_of_error (Prod.ext stops rfl)]
    rfl
  exact ⟨stream, tokenize_names "table(true" stream (by decide)⟩

end DataLexer
