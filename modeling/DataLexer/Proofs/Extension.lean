import DataLexer.Proofs.Alike
import DataLexer.Proofs.Boundary
import DataLexer.Proofs.Cover

namespace DataLexer

theorem looser_append_feed (text more : List Char) : Looser text (text ++ '\n' :: more) := by
  intro c found
  cases text with
  | nil =>
    cases found
    exact Or.inr (by decide)
  | cons d text => exact Or.inl found

/-- No colon is next on a line because of the lines behind it. -/
theorem colonNext_append_feed (text more : List Char) :
    ColonNext (text ++ '\n' :: more) ↔ ColonNext text := by
  unfold ColonNext
  cases solid : text.dropWhile isInlineBlank with
  | nil =>
    rw [List.dropWhile_append, solid]
    simp [isInlineBlank]
  | cons c rest => simp [List.dropWhile_append, solid]

/-- What stops a lexeme still does when more lines follow, but for a carriage return at the end of a
comment: the line feed makes it a part of the line ending. -/
theorem Form.Stops.append_feed {form : Form} {tail after : List Char} (stops : form.Stops tail after)
    (plain : form = .comment → after = [] → tail.getLast? ≠ some '\r') (more : List Char) :
    form.Stops tail (after ++ '\n' :: more) := by
  cases form with
  | comment =>
    obtain ⟨ended, returned⟩ := stops
    cases ended with
    | text => exact ⟨.feed, fun _ => plain rfl rfl⟩
    | feed => exact ⟨.feed, returned⟩
    | returned => exact ⟨.returned, returned⟩
  | number =>
    refine Reading.numberTail_of_looser stops (looser_append_feed after more) ?_
    rintro rest rest' rfl same
    obtain ⟨_, rfl⟩ := List.cons.inj same
    exact looser_append_feed rest more
  | name =>
    intro c found
    rcases looser_append_feed after more c found with head | blank
    · exact stops c head
    · exact isNameChar_of_isBlank blank
  | string | colon | comma | opening | closing => trivial

/-- A lexeme in the last line of a text is the same when more lines follow. -/
theorem Form.Spells.append_feed {form : Form} {c : Char} {tail after : List Char}
    (spells : form.Spells c (tail ++ after) tail)
    (plain : form = .comment → after = [] → tail.getLast? ≠ some '\r') (more : List Char) :
    form.Spells c (tail ++ (after ++ '\n' :: more)) tail := by
  obtain ⟨alone, stops⟩ := Form.spells_append_iff.mp spells
  exact Form.spells_append_iff.mpr ⟨alone, stops.append_feed plain more⟩

theorem startsComment_append_feed (c : Char) (rest more : List Char) :
    Reading.startsComment c (rest ++ '\n' :: more) = Reading.startsComment c rest := by
  cases rest <;> simp [Reading.startsComment]

theorem takeWhile_append_of_solid {p : Char → Bool} {text : List Char} (solid : text.dropWhile p ≠ [])
    (more : List Char) : (text ++ more).takeWhile p = text.takeWhile p := by
  rw [List.takeWhile_append, if_neg]
  intro whole
  have same := List.takeWhile_append_dropWhile (p := p) (l := text)
  have lengths := congrArg List.length same
  rw [List.length_append, whole] at lengths
  exact solid (List.length_eq_zero_iff.mp (by omega))

namespace Cursor

/-- The cursor with more text behind the text ahead. -/
def extended (more : List Char) (cursor : Cursor) : Cursor :=
  { cursor with ahead := cursor.ahead ++ more }

variable {cursor : Cursor} {more : List Char}

theorem advanceBy_extended {n : Nat} (room : n ≤ cursor.ahead.length) :
    (cursor.extended more).advanceBy n = (cursor.advanceBy n).extended more := by
  simp only [advanceBy, extended, List.take_append_of_le_length room,
    List.drop_append_of_le_length room]

theorem skipByteOrderMark_extended (unmarked : cursor.ahead = [] → more.head? ≠ some '\uFEFF') :
    (cursor.extended more).skipByteOrderMark = cursor.skipByteOrderMark.extended more := by
  cases ahead : cursor.ahead with
  | nil =>
    have other : (cursor.extended more).ahead.head? ≠ some '\uFEFF' := by
      simpa [extended, ahead] using unmarked ahead
    rw [skipByteOrderMark_eq other, skipByteOrderMark_eq (by simp [ahead])]
  | cons c rest =>
    have same : (cursor.extended more).atByteOrderMark = cursor.atByteOrderMark := by
      simp [atByteOrderMark, extended, ahead]
    have advance : (cursor.extended more).advance = cursor.advance.extended more :=
      advanceBy_extended (by simp [ahead])
    unfold skipByteOrderMark
    rw [same, advance]
    split <;> rfl

theorem advanceWhile_extended {keep : Char → Bool} (solid : cursor.ahead.dropWhile keep ≠ []) :
    (cursor.extended more).advanceWhile keep = (cursor.advanceWhile keep).extended more := by
  unfold advanceWhile
  have same : (cursor.extended more).ahead.takeWhile keep = cursor.ahead.takeWhile keep :=
    takeWhile_append_of_solid solid more
  rw [same]
  exact advanceBy_extended (List.takeWhile_sublist keep).length_le

theorem lineFeed?_extended (solid : cursor.ahead.dropWhile isBlank ≠ []) :
    (cursor.extended more).lineFeed? = cursor.lineFeed? := by
  have same : (cursor.extended more).ahead.takeWhile isBlank = cursor.ahead.takeWhile isBlank :=
    takeWhile_append_of_solid solid more
  unfold lineFeed?
  rw [same]
  rfl

end Cursor

namespace Lexer

/-- The lexer with more text behind the text ahead. -/
def extended (more : List Char) (lexer : Lexer) : Lexer :=
  { lexer with cursor := lexer.cursor.extended more }

variable {lexer after : Lexer} {token : Token} {form : Form} {c : Char} {rest tail more : List Char}

theorem solid_of_here (here : lexer.settled.cursor.ahead = c :: rest) :
    lexer.cursor.skipByteOrderMark.ahead.dropWhile isBlank ≠ [] := by
  unfold settled at here
  rw [Cursor.ahead_advanceWhile] at here
  simp [here]

/-- More text behind a lexeme does not change the way to it. -/
theorem skipByteOrderMark_extended (here : lexer.settled.cursor.ahead = c :: rest) :
    (lexer.extended more).cursor.skipByteOrderMark = lexer.cursor.skipByteOrderMark.extended more := by
  refine Cursor.skipByteOrderMark_extended fun nothing => ?_
  have skipped := ahead_skipByteOrderMark_le lexer.cursor
  have solid := List.length_pos_iff.mpr (solid_of_here here)
  have left := (List.dropWhile_suffix isBlank (l := lexer.cursor.skipByteOrderMark.ahead)).length_le
  rw [nothing, List.length_nil] at skipped
  omega

theorem settled_extended (here : lexer.settled.cursor.ahead = c :: rest) :
    (lexer.extended more).settled = lexer.settled.extended more := by
  unfold settled
  rw [skipByteOrderMark_extended here, Cursor.advanceWhile_extended (solid_of_here here)]
  rfl

theorem gap_extended (here : lexer.settled.cursor.ahead = c :: rest) :
    (lexer.extended more).gap = lexer.gap := by
  unfold gap
  rw [skipByteOrderMark_extended here]
  exact takeWhile_append_of_solid (solid_of_here here) _

theorem lineFeed?_extended (here : lexer.settled.cursor.ahead = c :: rest) :
    (lexer.extended more).cursor.skipByteOrderMark.lineFeed? = lexer.cursor.skipByteOrderMark.lineFeed? := by
  rw [skipByteOrderMark_extended here, Cursor.lineFeed?_extended (solid_of_here here)]

theorem here_extended (here : lexer.settled.cursor.ahead = c :: rest) :
    (lexer.extended more).settled.cursor.ahead = c :: (rest ++ more) := by
  rw [settled_extended here]
  exact congrArg (· ++ more) here

theorem rowEnds_extended :
    (lexer.extended ('\n' :: more)).rowEnds c (rest ++ '\n' :: more) = lexer.rowEnds c rest :=
  rowEnds_alike (Context.Alike.refl _) (startsComment_append_feed c rest more)

theorem Meets.extended (meets : lexer.Meets c rest) :
    (lexer.extended ('\n' :: more)).Meets c (rest ++ '\n' :: more) where
  running := meets.running
  here := here_extended meets.here
  unbroken := by
    rintro ⟨feed, ends⟩
    rw [gap_extended meets.here] at feed
    rw [rowEnds_extended] at ends
    exact meets.unbroken ⟨feed, ends⟩

/-- A lexeme leaves one token and one lexer behind. -/
theorem Passes.unique {token' : Token} {after' : Lexer} (passes : lexer.Passes form c tail token after)
    (again : lexer.Passes form c tail token' after') : token' = token ∧ after' = after := by
  have cursor : after'.cursor = after.cursor := again.cursor.trans passes.cursor.symm
  have kind : token'.kind = token.kind := by rw [again.kind, passes.kind, cursor]
  have text : token'.text = token.text := again.text.trans passes.text.symm
  have span : token'.span = token.span := by rw [again.span, passes.span, cursor]
  have same : token' = token := by
    obtain ⟨_, _, _⟩ := token
    obtain ⟨_, _, _⟩ := token'
    cases kind
    cases text
    cases span
    rfl
  have context : after'.context = after.context := by rw [again.context, passes.context, same]
  have finished : after'.finished = after.finished := again.running.trans passes.running.symm
  refine ⟨same, ?_⟩
  obtain ⟨_, _, _, _⟩ := after
  obtain ⟨_, _, _, _⟩ := after'
  cases cursor
  cases context
  cases finished
  rfl

theorem Passes.extended (passes : lexer.Passes form c tail token after)
    (colon : form = .name → (ColonNext (after.cursor.ahead ++ more) ↔ ColonNext after.cursor.ahead)) :
    (lexer.extended more).Passes form c tail token (after.extended more) := by
  have settled : (lexer.extended more).settled = lexer.settled.extended more :=
    settled_extended passes.ahead
  constructor
  · rw [settled]
    have longer := congrArg (· ++ more) passes.ahead
    rwa [List.append_assoc] at longer
  · have room : tail.length + 1 ≤ lexer.settled.cursor.ahead.length := by
      rw [passes.ahead]
      simp
    rw [settled]
    have moved := congrArg (Cursor.extended more) passes.cursor
    exact moved.trans (Cursor.advanceBy_extended room).symm
  · exact passes.running
  · rw [passes.kind]
    exact (kindOf_alike (Context.Alike.refl _) fun name => ⟨rfl, colon name⟩).symm
  · exact passes.text
  · rw [settled]
    exact passes.span
  · exact passes.context

/-- A token is the same when more lines follow, unless it is a comment that ends with the text in a
carriage return. -/
theorem next_extended (call : lexer.next = (.ok token, after)) (goesOn : token.isEof = false)
    (plain : token.kind = .comment → after.cursor.ahead = [] →
      lexer.settled.cursor.ahead.getLast? ≠ some '\r') :
    (lexer.extended ('\n' :: more)).next = (.ok token, after.extended ('\n' :: more)) := by
  cases step_of_next call with
  | done | last => cases goesOn
  | @rowBreak c rest _ _ _ running here ends gap =>
    have member : '\n' ∈ lexer.gap := by rw [gap]; simp
    obtain ⟨span, found⟩ := lineFeed?_isSome member
    have found' : (lexer.extended ('\n' :: more)).cursor.skipByteOrderMark.lineFeed? = some span :=
      (lineFeed?_extended here).trans found
    have running' : (lexer.extended ('\n' :: more)).finished = false := running
    have call' := next_of_break running' (here_extended here) found' (rowEnds_extended.trans ends)
    cases call.symm.trans (next_of_break running here found ends)
    rw [call', settled_extended here]
    rfl
  | @lexeme c rest tail form _ _ meets spells fits passes =>
    obtain ⟨behind, rfl⟩ := spells.append
    obtain ⟨_, same⟩ := List.cons.inj (meets.here.symm.trans passes.ahead)
    obtain rfl := List.append_cancel_left same
    have inner : form = .comment → after.cursor.ahead = [] → tail.getLast? ≠ some '\r' := by
      rintro rfl nothing last
      have whole := passes.ahead
      rw [nothing, List.append_nil] at whole
      refine plain passes.kind nothing ?_
      rw [whole, List.getLast?_cons, last]
      rfl
    have spells' := spells.append_feed inner more
    rw [← List.append_assoc] at spells'
    have fits' : (lexer.extended ('\n' :: more)).Fits form := fits_alike (Context.Alike.refl _) fits
    obtain ⟨token', after', call', passes'⟩ := meets.extended.takes spells' fits'
    obtain ⟨rfl, rfl⟩ := (passes.extended fun _ => colonNext_append_feed _ more).unique passes'
    exact call'

end Lexer

/-- What has been read of a text has been read of every text that goes on in a new line, unless the text
has been read to a carriage return at its end. -/
theorem Reached.extended {source whole : String} {more : List Char}
    (longer : whole.toList = source.toList ++ '\n' :: more) {past : List Token} {lexer : Lexer}
    (reached : Reached source past lexer) (running : lexer.finished = false)
    (plain : lexer.cursor.ahead = [] → source.toList.getLast? ≠ some '\r') :
    Reached whole past (lexer.extended ('\n' :: more)) := by
  induction reached with
  | start =>
    have same : (Lexer.ofText source).extended ('\n' :: more) = .ofText whole := by
      simp only [Lexer.ofText, Lexer.extended, Cursor.extended, Cursor.ofText, longer]
    rw [same]
    exact .start
  | @token past lexer token after earlier call ih =>
    have step := Lexer.step_of_next call
    have goesOn := step.finished.symm.trans running
    have ran := step.running_of_token goesOn
    have shorter := Lexer.ahead_next_lt call goesOn
    have before : lexer.cursor.ahead = [] → source.toList.getLast? ≠ some '\r' := by
      intro nothing
      simp [nothing] at shorter
    refine .token (ih ran before) (Lexer.next_extended call goesOn fun _ nothing last => plain nothing ?_)
    rw [← (earlier.standing ran).settled.whole, List.getLast?_append, last]
    rfl
  | failed _ call => exact absurd (Lexer.step_of_next call).finished_of_error (by simp [running])

end DataLexer
