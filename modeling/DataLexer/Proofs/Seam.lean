import DataLexer.Proofs.Extension
import DataLexer.Proofs.Relocation
import DataLexer.Proofs.RowBreaks

namespace DataLexer

/-- The last token that is no comment is the keyword of a table or ends its list of columns. The tokens
are given latest first. -/
def EndsInHead (past : List Token) : Prop :=
  (past.dropWhile (·.kind = .comment)).head?.map (·.kind) = some .tableKeyword ∨
    ClosesColumns (past.dropWhile (·.kind = .comment))

/-- Behind a line feed a line begins, as at the start of a text. -/
theorem Position.behind_feed (text : List Char) :
    behind (text ++ ['\n']) = ({} : Position).moved (text ++ ['\n']) := by
  have offset := behind_offset (text ++ ['\n'])
  have line := behind_line (text ++ ['\n'])
  have column : (behind (text ++ ['\n'])).column = 1 := by
    by_cases empty : text = []
    · rw [empty]
      rfl
    · rw [behind_append empty]
      rfl
  generalize behind (text ++ ['\n']) = place at offset line column
  obtain ⟨_, _, _⟩ := place
  cases offset
  cases line
  cases column
  simp [moved]

/-- Blank text is stepped over in one go or in two. -/
theorem Cursor.advanceWhile_advanceBy {cursor : Cursor} {keep : Char → Bool} {text rest : List Char}
    (ahead : cursor.ahead = text ++ rest) (kept : ∀ c ∈ text, keep c = true) :
    (cursor.advanceBy text.length).advanceWhile keep = cursor.advanceWhile keep := by
  unfold advanceWhile
  rw [ahead_advanceBy, ahead, List.drop_left, List.takeWhile_append_of_pos kept, List.length_append]
  simp only [advanceBy, ahead, List.take_left, List.drop_left, List.take_length_add_append,
    List.drop_length_add_append, List.reverse_append, List.append_assoc, Position.after_append]

namespace Lexer

/-- Where no row can end, what a lexer gives hangs on where it stands behind the blank text. -/
theorem next_congr_settled {lexer other : Lexer} (same : lexer.settled = other.settled)
    (running : lexer.finished = false) (closed : lexer.frames = []) : lexer.next = other.next := by
  have running' : other.finished = false := (congrArg Lexer.finished same).symm.trans running
  have closed' : other.frames = [] := (congrArg Lexer.frames same).symm.trans closed
  cases here : lexer.settled.cursor.ahead with
  | nil =>
    have here' := here
    rw [same] at here'
    rw [next_of_nothing running here, next_of_nothing running' here', same]
  | cons c rest =>
    have here' := here
    rw [same] at here'
    have unbroken {lexer : Lexer} (closed : lexer.frames = []) : ¬ lexer.BreaksBefore c rest := by
      rintro ⟨_, ends⟩
      simp [rowEnds, closed] at ends
    have meets : lexer.Meets c rest := ⟨running, here, unbroken closed⟩
    have meets' : other.Meets c rest := ⟨running', here', unbroken closed'⟩
    rw [meets.next, meets'.next, same]

end Lexer

theorem Cursor.Started.extended {cursor : Cursor} (started : cursor.Started) (more : List Char) :
    (cursor.extended ('\n' :: more)).Started where
  place := started.place
  past := by
    intro fresh
    have unmarked := started.past fresh
    unfold Cursor.extended
    cases ahead : cursor.ahead with
    | nil => simp
    | cons c rest => simpa [ahead] using unmarked

namespace Reached

variable {source more : String} {past : List Token} {lexer : Lexer}

/-- All that is ahead at the end of a text is blank. -/
theorem read_gap_of_nothing (reached : Reached source past lexer) (running : lexer.finished = false)
    (nothing : lexer.settled.cursor.ahead = []) :
    lexer.cursor.skipByteOrderMark.ahead = lexer.gap ∧
      lexer.cursor.skipByteOrderMark.read ++ lexer.gap = source.toList := by
  have gap : lexer.cursor.skipByteOrderMark.ahead = lexer.gap := by
    rw [← lexer.gap_append_settled, nothing, List.append_nil]
  rw [← (reached.standing running).whole, ← Cursor.read_append_ahead_skipByteOrderMark, gap]
  exact ⟨rfl, rfl⟩

/-- Past the line feed the cursor stands where a cursor of the second text starts. -/
theorem advanceBy_extended (reached : Reached source past lexer) (running : lexer.finished = false)
    (nothing : lexer.settled.cursor.ahead = []) (unmarked : more.toList.head? ≠ some '\uFEFF') :
    (lexer.cursor.skipByteOrderMark.extended ('\n' :: more.toList)).advanceBy
        (lexer.gap ++ ['\n']).length =
      (Lexer.atStart more).cursor.onto (source.toList ++ ['\n']) := by
  obtain ⟨gap, read⟩ := reached.read_gap_of_nothing running nothing
  have started :=
    (Cursor.started_skipByteOrderMark (reached.standing running).place).extended more.toList
  have ahead : (lexer.cursor.skipByteOrderMark.extended ('\n' :: more.toList)).ahead =
      (lexer.gap ++ ['\n']) ++ more.toList := by
    simp [Cursor.extended, gap]
  have behind : (lexer.gap ++ ['\n']).reverse ++ lexer.cursor.skipByteOrderMark.behind =
      (source.toList ++ ['\n']).reverse := by
    rw [← read]
    simp [Cursor.read]
  have fresh : (Lexer.atStart more).cursor = .ofText more.toList := Cursor.skipByteOrderMark_eq unmarked
  have place := started.after ahead
  have same : (lexer.cursor.skipByteOrderMark.extended ('\n' :: more.toList)).read =
    lexer.cursor.skipByteOrderMark.read := rfl
  rw [same, ← List.append_assoc, read, Position.behind_feed] at place
  unfold Cursor.advanceBy
  rw [ahead, List.take_left, List.drop_left, place, fresh]
  exact congrArg (Cursor.mk · _ _) behind

/-- At the end of a text, a line feed and more text put the lexer where it would stand at the start of
that text, moved behind the first. -/
theorem settled_extended (reached : Reached source past lexer) (running : lexer.finished = false)
    (nothing : lexer.settled.cursor.ahead = []) (context : lexer.context = {})
    (unmarked : more.toList.head? ≠ some '\uFEFF') :
    (lexer.extended ('\n' :: more.toList)).settled =
      ((Lexer.atStart more).onto (source.toList ++ ['\n'])).settled := by
  obtain ⟨gap, _⟩ := reached.read_gap_of_nothing running nothing
  have ahead : (lexer.cursor.skipByteOrderMark.extended ('\n' :: more.toList)).ahead =
      (lexer.gap ++ ['\n']) ++ more.toList := by
    simp [Cursor.extended, gap]
  have blank : ∀ c ∈ lexer.gap ++ ['\n'], isBlank c = true :=
    List.forall_mem_append.mpr ⟨fun _ => Lexer.isBlank_of_mem_gap,
      List.forall_mem_singleton.mpr (by decide)⟩
  have cursor : (lexer.extended ('\n' :: more.toList)).settled.cursor =
      ((Lexer.atStart more).onto (source.toList ++ ['\n'])).settled.cursor := by
    have left : (lexer.extended ('\n' :: more.toList)).cursor.skipByteOrderMark =
        lexer.cursor.skipByteOrderMark.extended ('\n' :: more.toList) :=
      Cursor.skipByteOrderMark_extended (by simp)
    have right : ((Lexer.atStart more).onto (source.toList ++ ['\n'])).cursor.skipByteOrderMark =
        (Lexer.atStart more).cursor.onto (source.toList ++ ['\n']) :=
      Cursor.skipByteOrderMark_onto (by simp) _
    unfold Lexer.settled
    rw [left, right, ← reached.advanceBy_extended running nothing unmarked]
    exact (Cursor.advanceWhile_advanceBy ahead blank).symm
  obtain ⟨closed, head⟩ := Context.mk.inj context
  exact (Lexer.mk.injEq ..).mpr ⟨cursor, closed, head, running⟩

/-- At the end of a text the last token that is no comment is a significant one. -/
theorem lastSignificant_eq (reached : Reached source past lexer) (running : lexer.finished = false)
    (nothing : lexer.settled.cursor.ahead = []) :
    lastSignificant past = past.dropWhile (·.kind = .comment) := by
  have split : sinceSignificant past ++ lastSignificant past = past := List.takeWhile_append_dropWhile
  have insignificant : ∀ token ∈ sinceSignificant past, token.isSignificant = false := by
    intro token member
    simpa using List.all_eq_true.mp List.all_takeWhile token member
  have solid : (lastSignificant past).dropWhile (·.kind = .comment) = lastSignificant past := by
    have stops := List.head?_dropWhile_not (!·.isSignificant) past
    unfold lastSignificant
    cases rest : past.dropWhile (!·.isSignificant) with
    | nil => rfl
    | cons token earlier =>
      rw [rest] at stops
      have significant : token.isSignificant = true := by simpa using stops
      exact List.dropWhile_cons_of_neg (by simp [(Token.isSignificant_iff.mp significant).1])
  rw [← split] at reached
  rcases reached.since_significant running insignificant with comments | ⟨feed, comments, same, kind, _⟩
  · have all : ∀ token ∈ sinceSignificant past, decide (token.kind = .comment) = true := by
      simpa using comments
    conv => rhs; rw [← split, List.dropWhile_append_of_pos all, solid]
  · -- behind a row break something is left to read
    rw [same] at reached
    obtain ⟨_, _, _, meets, _⟩ := Reached.behind_break reached running kind
    exact absurd meets.here (by simp [nothing])

end Reached

/-- Texts put together at a line feed are read one after the other. The second one starts anew, unless the
first one ends in the head of a table; the line feed must not complete a line ending, nor hide a byte
order mark. -/
theorem tokenize_seam {source : String} (more : String) (complete : (tokenize source).error = none)
    (plain : source.toList.getLast? ≠ some '\r') (unmarked : more.toList.head? ≠ some '\uFEFF')
    (apart : ¬ EndsInHead ((tokenize source).tokens.filter (!·.isEof)).reverse) :
    tokenize (source ++ "\n" ++ more) =
      ⟨(tokenize source).tokens.filter (!·.isEof) ++
          (tokenize more).tokens.map (·.moved (source.toList ++ ['\n'])),
        (tokenize more).error.map (·.moved (source.toList ++ ['\n']))⟩ := by
  obtain ⟨past, lexer, after, reached, running, nothing, closed, _, tokens⟩ := reached_of_complete complete
  have given : (tokenize source).tokens.filter (!·.isEof) = past.reverse := by
    have goesOn : ∀ token ∈ past.reverse, (!token.isEof) = true := by
      intro token member
      obtain ⟨_, _, _, _, notEnd, _⟩ := (reached.standing running).layout.mem (List.mem_reverse.mp member)
      simp [Token.isEof, notEnd]
    rw [tokens, List.filter_append, List.filter_eq_self.mpr goesOn]
    simp [Token.isEof, Token.atEnd]
  have context : lexer.context = {} := by
    rw [given, List.reverse_reverse, EndsInHead, ← reached.lastSignificant_eq running nothing] at apart
    obtain ⟨noKeyword, noColumns⟩ := not_or.mp apart
    have head : lexer.head = .none := by
      cases head : lexer.head with
      | none => rfl
      | keyword => exact absurd (reached.tells.keyword.mp head) noKeyword
      | columns => exact absurd (reached.tells.columns.mp head) noColumns
    unfold Lexer.context
    rw [closed, head]
  have whole : (source ++ "\n" ++ more).toList = source.toList ++ '\n' :: more.toList := by simp
  have reached' := reached.extended whole running fun _ => plain
  have settled := reached.settled_extended running nothing context unmarked
  have drained := Lexer.drain_congr (Lexer.next_congr_settled settled running closed)
  rw [reached'.tokenize running, drained, Lexer.drain_onto (by simp) (Lexer.started_atStart more),
    Lexer.drain_atStart, given]
  rfl

/-- A colon in the next line makes no key of a word before a comment, and a stray bracket is found where
it stands. -/
theorem tokenize_seam_below_word :
    (tokenize "true # c").error = none ∧ "true # c".toList.getLast? ≠ some '\r' ∧
      ":]".toList.head? ≠ some '\uFEFF' ∧
      ¬ EndsInHead ((tokenize "true # c").tokens.filter (!·.isEof)).reverse ∧
      tokenize ("true # c" ++ "\n" ++ ":]") =
        ⟨[⟨.boolean, "true", ⟨0, 4, 1, 1⟩⟩, ⟨.comment, "# c", ⟨5, 8, 1, 6⟩⟩, ⟨.colon, ":", ⟨9, 10, 2, 1⟩⟩],
          some (.unbalancedDelimiter (some ']') ⟨10, 11, 2, 2⟩ none)⟩ := by
  have word : (Lexer.ofText "true # c").next.1 = .ok ⟨.boolean, "true", ⟨0, 4, 1, 1⟩⟩ := by decide
  have comment : (Lexer.ofText "true # c").next.2.next.1 = .ok ⟨.comment, "# c", ⟨5, 8, 1, 6⟩⟩ := by decide
  have eof : (Lexer.ofText "true # c").next.2.next.2.next.1 = .ok ⟨.eof, "", ⟨8, 8, 1, 9⟩⟩ := by decide
  have above : tokenize "true # c" = ⟨[⟨.boolean, "true", ⟨0, 4, 1, 1⟩⟩, ⟨.comment, "# c", ⟨5, 8, 1, 6⟩⟩,
      ⟨.eof, "", ⟨8, 8, 1, 9⟩⟩], none⟩ := by
    rw [tokenize, Lexer.drain_of_next word, Lexer.drain_of_next comment, Lexer.drain_of_next eof]
    rfl
  have colon : (Lexer.ofText ":]").next.1 = .ok ⟨.colon, ":", ⟨0, 1, 1, 1⟩⟩ := by decide
  have stray : (Lexer.ofText ":]").next.2.next.1 =
      .error (.unbalancedDelimiter (some ']') ⟨1, 2, 1, 2⟩ none) := by decide
  have below : tokenize ":]" =
      ⟨[⟨.colon, ":", ⟨0, 1, 1, 1⟩⟩], some (.unbalancedDelimiter (some ']') ⟨1, 2, 1, 2⟩ none)⟩ := by
    rw [tokenize, Lexer.drain_of_next colon, Lexer.drain_of_error (Prod.ext stray rfl)]
    rfl
  have complete : (tokenize "true # c").error = none := by rw [above]
  have apart : ¬ EndsInHead ((tokenize "true # c").tokens.filter (!·.isEof)).reverse := by
    rw [above]
    simp [EndsInHead, ClosesColumns, Token.isEof]
  have plain : "true # c".toList.getLast? ≠ some '\r' := by decide
  have unmarked : ":]".toList.head? ≠ some '\uFEFF' := by decide
  refine ⟨complete, plain, unmarked, apart, ?_⟩
  rw [tokenize_seam ":]" complete plain unmarked apart, above, below]
  decide

end DataLexer
