import DataLexer.Proofs.Start

namespace DataLexer

/-- A place moved behind the text `front`. Columns stay: `front` is taken to end a line. -/
def Position.moved (front : List Char) (place : Position) : Position :=
  ⟨place.offset + byteLength front, place.line + front.count '\n', place.column⟩

def Span.moved (front : List Char) (span : Span) : Span :=
  ⟨span.start + byteLength front, span.stop + byteLength front, span.line + front.count '\n', span.column⟩

def Opener.moved (front : List Char) (opener : Opener) : Opener :=
  { opener with span := opener.span.moved front }

def Token.moved (front : List Char) (token : Token) : Token :=
  { token with span := token.span.moved front }

def LexError.moved (front : List Char) : LexError → LexError
  | .unterminatedString span => .unterminatedString (span.moved front)
  | .unbalancedDelimiter found span opener =>
    .unbalancedDelimiter found (span.moved front) (opener.map (·.moved front))
  | .unexpectedCharacter found span => .unexpectedCharacter found (span.moved front)

def TokenStream.moved (front : List Char) (stream : TokenStream) : TokenStream :=
  ⟨stream.tokens.map (·.moved front), stream.error.map (·.moved front)⟩

def Frame.moved (front : List Char) (frame : Frame) : Frame :=
  { frame with opener := frame.opener.moved front }

/-- The cursor with the text `front` read before all that it has read. -/
def Cursor.onto (front : List Char) (cursor : Cursor) : Cursor :=
  ⟨cursor.behind ++ front.reverse, cursor.ahead, cursor.place.moved front⟩

/-- The lexer with the text `front` read before all that it has read. -/
def Lexer.onto (front : List Char) (lexer : Lexer) : Lexer :=
  { lexer with cursor := lexer.cursor.onto front, frames := lexer.frames.map (·.moved front) }

/-- What a call gives, moved behind the text `front`. -/
def movedCall (front : List Char) : Except LexError Token × Lexer → Except LexError Token × Lexer
  | (.ok token, after) => (.ok (token.moved front), after.onto front)
  | (.error error, after) => (.error (error.moved front), after.onto front)

variable {front : List Char}

theorem Position.next_moved (place : Position) (c : Char) :
    (place.moved front).next c = (place.next c).moved front := by
  unfold moved next
  by_cases feed : c = '\n' <;> simp [feed] <;> omega

theorem Position.after_moved (place : Position) (text : List Char) :
    (place.moved front).after text = (place.after text).moved front := by
  induction text generalizing place with
  | nil => rfl
  | cons c text ih =>
    have first : (place.moved front).after (c :: text) = ((place.moved front).next c).after text := rfl
    rw [first, next_moved, ih]
    rfl

theorem Position.upTo_moved (here there : Position) :
    (here.moved front).upTo (there.moved front) = (here.upTo there).moved front := rfl

namespace Cursor

theorem advanceBy_onto (cursor : Cursor) (n : Nat) :
    (cursor.onto front).advanceBy n = (cursor.advanceBy n).onto front := by
  simp only [advanceBy, onto, Position.after_moved, List.append_assoc]

theorem advanceWhile_onto (cursor : Cursor) (keep : Char → Bool) :
    (cursor.onto front).advanceWhile keep = (cursor.advanceWhile keep).onto front :=
  cursor.advanceBy_onto _

/-- Behind a text no byte order mark is stepped over. -/
theorem skipByteOrderMark_onto (nonempty : front ≠ []) (cursor : Cursor) :
    (cursor.onto front).skipByteOrderMark = cursor.onto front := by
  rcases (cursor.onto front).skipByteOrderMark_cases with ⟨same, _⟩ | ⟨zero, _⟩
  · exact same
  · have bytes := byteLength_pos nonempty
    have offset : (cursor.onto front).place.offset = cursor.place.offset + byteLength front := rfl
    omega

theorem lineFeed?_onto (cursor : Cursor) :
    (cursor.onto front).lineFeed? = cursor.lineFeed?.map (·.moved front) := by
  unfold lineFeed?
  have ahead : (cursor.onto front).ahead = cursor.ahead := rfl
  have place : (cursor.onto front).place = cursor.place.moved front := rfl
  rw [ahead, place]
  dsimp only
  split
  · simp only [Position.after_moved, Position.next_moved, Position.upTo_moved, Option.map_some]
  · rfl

end Cursor

namespace Frame

theorem startRow_moved (frame : Frame) : (frame.moved front).startRow = frame.startRow.moved front := by
  obtain ⟨opener, role⟩ := frame
  cases role <;> rfl

theorem endRow_moved (frame : Frame) : (frame.moved front).endRow = frame.endRow.moved front := by
  obtain ⟨opener, role⟩ := frame
  cases role <;> rfl

end Frame

namespace Lexer

variable (lexer : Lexer)

theorem any_role_onto (role : Role) :
    (lexer.onto front).frames.head?.any (·.role = role) = lexer.frames.head?.any (·.role = role) := by
  unfold onto
  cases lexer.frames <;> rfl

theorem startRow_onto : (lexer.onto front).startRow = lexer.startRow.map (·.moved front) := by
  unfold startRow onto
  cases lexer.frames with
  | nil => rfl
  | cons frame outer => simp [Frame.startRow_moved]

theorem endRow_onto : (lexer.onto front).endRow = lexer.endRow.onto front := by
  unfold endRow onto
  cases lexer.frames with
  | nil => rfl
  | cons frame outer => simp [Frame.endRow_moved]

theorem nameKind_onto (name rest : List Char) :
    (lexer.onto front).nameKind name rest = lexer.nameKind name rest := by
  simp only [nameKind, any_role_onto]

theorem rowEnds_onto (c : Char) (rest : List Char) :
    (lexer.onto front).rowEnds c rest = lexer.rowEnds c rest := by
  simp only [rowEnds, any_role_onto]

theorem accept_onto (size : Nat) (kind : TokenKind) (frames : List Frame) (head : TableHead) :
    (lexer.onto front).accept size kind (frames.map (·.moved front)) head =
      movedCall front (lexer.accept size kind frames head) := by
  simp only [accept, movedCall, onto, Cursor.advanceBy_onto]
  rfl

theorem stop_onto (cursor : Cursor) (error : LexError) :
    (lexer.onto front).stop (cursor.onto front) (error.moved front) =
      movedCall front (lexer.stop cursor error) := rfl

theorem close_onto (delimiter : Delimiter) :
    (lexer.onto front).close delimiter = movedCall front (lexer.close delimiter) := by
  have advance : (lexer.onto front).cursor.advance = lexer.cursor.advance.onto front :=
    lexer.cursor.advanceBy_onto 1
  unfold close
  rw [advance]
  cases opened : lexer.frames with
  | nil =>
    have none : (lexer.onto front).frames = [] := by simp [onto, opened]
    rw [none]
    rfl
  | cons frame outer =>
    have some : (lexer.onto front).frames = frame.moved front :: outer.map (·.moved front) := by
      simp [onto, opened]
    have same : (frame.moved front).opener.delimiter = frame.opener.delimiter := rfl
    rw [some]
    dsimp only
    rw [same]
    split
    · exact lexer.accept_onto 1 _ outer _
    · rfl

theorem take_onto (size : Nat) (form : Form) :
    (lexer.onto front).take size form = movedCall front (lexer.take size form) := by
  cases form with
  | comment => exact lexer.accept_onto size _ lexer.frames _
  | string | number | colon | comma =>
    simp only [take, startRow_onto]
    exact lexer.accept_onto size _ lexer.startRow _
  | name =>
    have ahead : (lexer.onto front).cursor.ahead = lexer.cursor.ahead := rfl
    simp only [take, startRow_onto, nameKind_onto, ahead]
    exact lexer.accept_onto size _ lexer.startRow _
  | opening delimiter =>
    have advance : (lexer.onto front).cursor.advance = lexer.cursor.advance.onto front :=
      lexer.cursor.advanceBy_onto 1
    simp only [take, startRow_onto, advance]
    exact lexer.accept_onto size _
      (⟨⟨delimiter, lexer.cursor.place.upTo lexer.cursor.advance.place⟩, lexer.head.roleOf delimiter⟩ ::
        lexer.startRow) _
  | closing delimiter => exact lexer.close_onto delimiter

theorem scan_onto (c : Char) (rest : List Char) :
    (lexer.onto front).scan c rest = movedCall front (lexer.scan c rest) := by
  unfold scan
  split
  · exact lexer.take_onto _ _
  · rename_i tail _
    have advance (n : Nat) : (lexer.onto front).cursor.advanceBy n = (lexer.cursor.advanceBy n).onto front :=
      lexer.cursor.advanceBy_onto n
    dsimp only
    rw [advance]
    exact lexer.stop_onto (lexer.cursor.advanceBy (tail.length + 1))
      (.unterminatedString (lexer.cursor.place.upTo (lexer.cursor.advanceBy (tail.length + 1)).place))
  · have span : (⟨(lexer.onto front).cursor.place.offset,
        (lexer.onto front).cursor.place.offset + c.utf8Size, (lexer.onto front).cursor.place.line,
        (lexer.onto front).cursor.place.column⟩ : Span) =
        Span.moved front ⟨lexer.cursor.place.offset, lexer.cursor.place.offset + c.utf8Size,
          lexer.cursor.place.line, lexer.cursor.place.column⟩ := by
      simp only [onto, Cursor.onto, Position.moved, Span.moved, Nat.add_right_comm]
    dsimp only
    rw [span]
    exact lexer.stop_onto lexer.cursor (.unexpectedCharacter c _)

theorem finish_onto : (lexer.onto front).finish = movedCall front lexer.finish := by
  unfold finish
  cases opened : lexer.frames with
  | nil =>
    have none : (lexer.onto front).frames = [] := by simp [onto, opened]
    rw [none]
    simp only [movedCall, onto, opened, List.map_nil]
    rfl
  | cons frame outer =>
    have some : (lexer.onto front).frames = frame.moved front :: outer.map (·.moved front) := by
      simp [onto, opened]
    rw [some]
    exact lexer.stop_onto lexer.cursor
      (.unbalancedDelimiter none lexer.cursor.place.point frame.opener)

variable {lexer}

theorem settled_onto (nonempty : front ≠ []) (started : lexer.cursor.Started) :
    (lexer.onto front).settled = lexer.settled.onto front := by
  unfold settled
  rw [started.skipByteOrderMark]
  have cursor : (lexer.onto front).cursor = lexer.cursor.onto front := rfl
  rw [cursor, Cursor.skipByteOrderMark_onto nonempty, Cursor.advanceWhile_onto]
  rfl

theorem next_onto (nonempty : front ≠ []) (started : lexer.cursor.Started) :
    (lexer.onto front).next = movedCall front lexer.next := by
  cases running : lexer.finished with
  | true =>
    have ended : (lexer.onto front).finished = true := running
    rw [next_of_finished running, next_of_finished ended]
    rfl
  | false =>
    have goesOn : (lexer.onto front).finished = false := running
    have cursor : (lexer.onto front).cursor = lexer.cursor.onto front := rfl
    rw [next_of_running running, next_of_running goesOn, settled_onto nonempty started, cursor,
      Cursor.skipByteOrderMark_onto nonempty, started.skipByteOrderMark, Cursor.lineFeed?_onto]
    have ahead : (lexer.settled.onto front).cursor.ahead = lexer.settled.cursor.ahead := rfl
    rw [ahead]
    cases lexer.settled.cursor.ahead with
    | nil => exact lexer.settled.finish_onto
    | cons c rest =>
      cases lexer.cursor.lineFeed? with
      | none => exact lexer.settled.scan_onto c rest
      | some span =>
        simp only [Option.map_some, rowEnds_onto]
        split
        · rw [endRow_onto]
          rfl
        · exact lexer.settled.scan_onto c rest

/-- Behind a text a lexer gives the stream that it gives at the start, moved. -/
theorem drain_onto (nonempty : front ≠ []) (started : lexer.cursor.Started) :
    (lexer.onto front).drain = lexer.drain.moved front := by
  induction lexer using drain_induction with
  | stop lexer ended =>
    have moved := next_onto nonempty started
    match call : lexer.next with
    | (.error error, after) =>
      rw [call] at moved
      rw [drain_of_error call, drain_of_error moved]
      rfl
    | (.ok token, after) =>
      rw [call] at moved
      have last := ended token after call
      have same : (token.moved front).isEof = token.isEof := rfl
      rw [drain_of_token call, drain_of_token moved, same, last]
      rfl
  | more lexer token after call goesOn ih =>
    have moved := next_onto nonempty started
    rw [call] at moved
    have call' : (lexer.onto front).next = (.ok (token.moved front), after.onto front) := moved
    rw [drain_of_more call goesOn, drain_of_more call' goesOn, ih ((step_of_next call).started started)]
    rfl

end Lexer

end DataLexer
