import DataLexer.Proofs.Seam

namespace DataLexer

/-- What the text between a pair of delimiters is, whatever has been read of it. -/
inductive Part where
  | nested
  | columns
  | rows
deriving DecidableEq

/-- An opening delimiter that waits for its closing one. In a list of rows it notes whether the row under
way has begun, and the line feed that ends it once the next row starts. -/
structure Slot where
  opener : Opener
  part : Part
  begun : Bool := false
  waiting : Option Span := none

/-- A pass over a text that takes notes. Blank text is passed one character at a time, and a line feed in a
list of rows is noted at the bracket of the list, where it may become a row break. `slots` holds the delimiters that are open, innermost first,
`last` is the kind of the last token that is neither a comment nor a row break, `headClosed` is set when
that token closed a list of columns, and `checked` once a byte order mark has been looked for. -/
structure Recorder where
  cursor : Cursor
  slots : List Slot := []
  last : Option TokenKind := none
  headClosed : Bool := false
  checked : Bool := false
  finished : Bool := false

namespace Slot

/-- The first line feed behind the row under way is noted. -/
def noteFeed (slot : Slot) (feed : Span) : Slot :=
  if slot.part = .rows ∧ slot.begun = true ∧ slot.waiting = none then
    { slot with waiting := some feed }
  else slot

def begin (slot : Slot) : Slot := if slot.part = .rows then { slot with begun := true } else slot

def forget (slot : Slot) : Slot := if slot.part = .rows then { slot with waiting := none } else slot

/-- The row break is given, and the next row is still to begin. -/
def ended (slot : Slot) : Slot := { slot with begun := false, waiting := none }

end Slot

namespace Recorder

def ofText (text : String) : Recorder := { cursor := .ofText text.toList }

/-- Called at each line feed of the blank text. -/
def noteFeed (recorder : Recorder) : Recorder :=
  let place := recorder.cursor.place
  let feed : Span := ⟨place.offset, place.offset + 1, place.line, place.column⟩
  { recorder with slots := recorder.slots.modifyHead (·.noteFeed feed) }

def advance (recorder : Recorder) : Recorder := { recorder with cursor := recorder.cursor.advance }

/-- Passes the blank text at the start of the text ahead, which is given. -/
def skipBlank : List Char → Recorder → Recorder
  | [], recorder => recorder
  | c :: rest, recorder =>
    if c = '\n' then skipBlank rest recorder.noteFeed.advance
    else if isInlineBlank c then skipBlank rest recorder.advance
    else recorder

def skipMark (recorder : Recorder) : Recorder :=
  if recorder.checked then recorder
  else { recorder with cursor := recorder.cursor.skipByteOrderMark, checked := true }

def settle (recorder : Recorder) : Recorder :=
  skipBlank recorder.skipMark.cursor.ahead recorder.skipMark

/-- The noted line feed, as a row break, when the next row starts here. -/
def takeBreak? (recorder : Recorder) : Option (Token × Recorder) :=
  match recorder.cursor.ahead, recorder.slots with
  | c :: rest, slot :: outer =>
    if c = ']' ∨ Reading.startsComment c rest = true then none
    else slot.waiting.map fun feed =>
      (⟨.newline, "\n", feed⟩, { recorder with slots := slot.ended :: outer })
  | _, _ => none

def partOf (recorder : Recorder) : Delimiter → Part
  | .paren => if recorder.last = some .tableKeyword then .columns else .nested
  | .array => if recorder.headClosed then .rows else .nested
  | .block => .nested

def nameKind (recorder : Recorder) (name rest : List Char) : TokenKind :=
  if recorder.slots.head?.any (·.part = .columns) || (rest.dropWhile isInlineBlank).head? = some ':' then
    .key
  else (TokenKind.ofWord? (String.ofList name)).getD .identifier

/-- A token begins the row of the list that it stands in, so an opening delimiter that of the list around
it. `depth` counts the delimiters that were open before the token. -/
def markContent (recorder : Recorder) (depth : Nat) (kind : TokenKind) : Recorder :=
  if kind = .comment then { recorder with slots := recorder.slots.modifyHead Slot.forget }
  else if depth = 0 ∨ recorder.slots.length < depth then recorder
  else { recorder with slots := recorder.slots.modify (recorder.slots.length - depth) Slot.begin }

def noteKind (recorder : Recorder) : TokenKind → Recorder
  | .comment => recorder
  | .parenClose => { recorder with last := some .parenClose }
  | kind => { recorder with last := some kind, headClosed := false }

/-- Past a lexeme of `size` characters that leaves these delimiters open, before it is noted. -/
def past (recorder : Recorder) (size : Nat) (slots : List Slot) (headClosed : Bool) : Recorder :=
  { recorder with cursor := recorder.cursor.advanceBy size, slots, headClosed }

def accept (recorder : Recorder) (size : Nat) (kind : TokenKind) (slots : List Slot) (headClosed : Bool) :
    Except LexError Token × Recorder :=
  let past := recorder.past size slots headClosed
  let text := String.ofList (recorder.cursor.ahead.take size)
  (.ok ⟨kind, text, recorder.cursor.place.upTo past.cursor.place⟩,
    (past.markContent recorder.slots.length kind).noteKind kind)

def stop (recorder : Recorder) (cursor : Cursor) (error : LexError) : Except LexError Token × Recorder :=
  (.error error, { recorder with cursor, finished := true })

def close (recorder : Recorder) (delimiter : Delimiter) : Except LexError Token × Recorder :=
  let cursor := recorder.cursor.advance
  let span := recorder.cursor.place.upTo cursor.place
  match recorder.slots with
  | [] => recorder.stop cursor (.unbalancedDelimiter (some delimiter.closeChar) span none)
  | slot :: outer =>
    if slot.opener.delimiter = delimiter then
      recorder.accept 1 delimiter.closeKind outer (slot.part = .columns)
    else recorder.stop cursor (.unbalancedDelimiter (some delimiter.closeChar) span slot.opener)

def take (recorder : Recorder) (size : Nat) : Form → Except LexError Token × Recorder
  | .comment => recorder.accept size .comment recorder.slots recorder.headClosed
  | .string => recorder.accept size .string recorder.slots recorder.headClosed
  | .number => recorder.accept size .number recorder.slots recorder.headClosed
  | .colon => recorder.accept size .colon recorder.slots recorder.headClosed
  | .comma => recorder.accept size .comma recorder.slots recorder.headClosed
  | .name =>
    let kind := recorder.nameKind (recorder.cursor.ahead.take size) (recorder.cursor.ahead.drop size)
    recorder.accept size kind recorder.slots recorder.headClosed
  | .opening delimiter =>
    let span := recorder.cursor.place.upTo recorder.cursor.advance.place
    let slot : Slot := { opener := ⟨delimiter, span⟩, part := recorder.partOf delimiter }
    recorder.accept size delimiter.openKind (slot :: recorder.slots) recorder.headClosed
  | .closing delimiter => recorder.close delimiter

def scan (recorder : Recorder) (c : Char) (rest : List Char) : Except LexError Token × Recorder :=
  match Reading.ofText c rest with
  | .lexeme form tail => recorder.take (tail.length + 1) form
  | .unterminated tail =>
    let cursor := recorder.cursor.advanceBy (tail.length + 1)
    recorder.stop cursor (.unterminatedString (recorder.cursor.place.upTo cursor.place))
  | .unexpected =>
    let place := recorder.cursor.place
    recorder.stop recorder.cursor
      (.unexpectedCharacter c ⟨place.offset, place.offset + c.utf8Size, place.line, place.column⟩)

def finish (recorder : Recorder) : Except LexError Token × Recorder :=
  match recorder.slots with
  | [] => (.ok (.atEnd recorder.cursor.place), { recorder with finished := true })
  | slot :: _ =>
    recorder.stop recorder.cursor (.unbalancedDelimiter none recorder.cursor.place.point slot.opener)

/-- Takes the row break that is due, or else what starts at the cursor. -/
def read (recorder : Recorder) : Except LexError Token × Recorder :=
  match recorder.takeBreak? with
  | some (feed, after) => (.ok feed, after)
  | none =>
    match recorder.cursor.ahead with
    | [] => recorder.finish
    | c :: rest => recorder.scan c rest

def next (recorder : Recorder) : Except LexError Token × Recorder :=
  if recorder.finished then (.ok (.atEnd recorder.cursor.place), recorder)
  else recorder.settle.read

end Recorder

namespace Slot

variable {slot : Slot} {feed : Span}

/-- Behind the first line feed no other one is noted. -/
theorem noteFeed_noteFeed (other : Span) : (slot.noteFeed feed).noteFeed other = slot.noteFeed feed := by
  unfold noteFeed
  grind

/-- What is noted while blank text with this first line feed is passed. -/
def noteGap (feed? : Option Span) (slot : Slot) : Slot := feed?.elim slot slot.noteFeed

theorem noteGap_noteFeed (feed? : Option Span) : (slot.noteFeed feed).noteGap feed? = slot.noteFeed feed := by
  cases feed? with
  | none => rfl
  | some other => exact noteFeed_noteFeed other

end Slot

namespace Cursor

variable {cursor : Cursor} {c : Char} {rest : List Char}

theorem lineFeed?_of_feed (here : cursor.ahead = '\n' :: rest) :
    cursor.lineFeed? = some (cursor.place.upTo (cursor.place.next '\n')) := by
  have gap : cursor.ahead.takeWhile isBlank = '\n' :: rest.takeWhile isBlank := by
    rw [here, List.takeWhile_cons_of_pos (by decide)]
  simp only [lineFeed?, gap, List.mem_cons, true_or, if_true]
  rfl

theorem lineFeed?_of_inline (here : cursor.ahead = c :: rest) (blank : isBlank c = true)
    (inline : c ≠ '\n') : cursor.lineFeed? = cursor.advance.lineFeed? := by
  have ahead : cursor.advance.ahead = rest := by simp [advance, here]
  have place : cursor.advance.place = cursor.place.next c := by
    simp [advance, place_advanceBy, here]
  have inner (gap : List Char) : (c :: gap).takeWhile (· != '\n') = c :: gap.takeWhile (· != '\n') :=
    List.takeWhile_cons_of_pos (by simpa using inline)
  simp only [lineFeed?, ahead, place, here, List.takeWhile_cons_of_pos blank, List.mem_cons, inline.symm,
    false_or, inner]
  rfl

theorem advanceWhile_cons {keep : Char → Bool} (here : cursor.ahead = c :: rest) (kept : keep c = true) :
    cursor.advanceWhile keep = cursor.advance.advanceWhile keep := by
  have ahead : cursor.ahead = [c] ++ rest := here
  exact (advanceWhile_advanceBy ahead (by simpa using kept)).symm

end Cursor

namespace Recorder

variable {recorder : Recorder}

/-- Past the blank text, with its first line feed noted. -/
def passed (recorder : Recorder) : Recorder :=
  { recorder with
    cursor := recorder.cursor.advanceWhile isBlank
    slots := recorder.slots.modifyHead (Slot.noteGap recorder.cursor.lineFeed?) }

theorem passed_of_solid (solid : recorder.cursor.ahead.takeWhile isBlank = []) :
    recorder.passed = recorder := by
  have stays : recorder.cursor.advanceWhile isBlank = recorder.cursor := by
    rw [Cursor.advanceWhile, solid]
    rfl
  have nothing : recorder.cursor.lineFeed? = none := Lexer.lineFeed?_eq_none (by simp [solid])
  have same : recorder.slots.modifyHead (Slot.noteGap none) = recorder.slots := by
    cases recorder.slots <;> rfl
  rw [passed, stays, nothing, same]

theorem passed_of_inline {c : Char} {rest : List Char} (here : recorder.cursor.ahead = c :: rest)
    (blank : isBlank c = true) (inline : c ≠ '\n') : recorder.advance.passed = recorder.passed := by
  have cursor : recorder.advance.cursor = recorder.cursor.advance := rfl
  rw [passed, passed, cursor, Cursor.advanceWhile_cons here blank,
    Cursor.lineFeed?_of_inline here blank inline]
  rfl

theorem passed_of_feed {rest : List Char} (here : recorder.cursor.ahead = '\n' :: rest) :
    recorder.noteFeed.advance.passed = recorder.passed := by
  have cursor : recorder.noteFeed.advance.cursor = recorder.cursor.advance := rfl
  have blank : isBlank '\n' = true := by decide
  have slots (later : Option Span) : recorder.noteFeed.slots.modifyHead (Slot.noteGap later) =
      recorder.slots.modifyHead (Slot.noteGap recorder.cursor.lineFeed?) := by
    -- whatever line feed comes later, the slot keeps the one noted here
    rw [Cursor.lineFeed?_of_feed here, noteFeed, List.modifyHead_modifyHead]
    congr 1
    exact funext fun slot => Slot.noteGap_noteFeed later
  rw [passed, passed, cursor, Cursor.advanceWhile_cons here blank, ← slots]
  rfl

/-- Blank text is passed as a whole: of its line feeds the first one is noted. -/
theorem skipBlank_eq {ahead : List Char} (here : recorder.cursor.ahead = ahead) :
    skipBlank ahead recorder = recorder.passed := by
  induction ahead generalizing recorder with
  | nil => rw [skipBlank, passed_of_solid (by simp [here])]
  | cons c rest ih =>
    have ahead : recorder.cursor.advance.ahead = rest := by simp [Cursor.advance, here]
    rw [skipBlank]
    by_cases feed : c = '\n'
    · subst c
      rw [if_pos rfl, ih ahead, passed_of_feed here]
    · rw [if_neg feed]
      by_cases blank : isBlank c = true
      · have inline : isInlineBlank c = true := by simp [isInlineBlank, feed, blank]
        rw [if_pos inline, ih ahead, passed_of_inline here blank feed]
      · have solid : isInlineBlank c ≠ true := by simp [isInlineBlank, blank]
        rw [if_neg solid, passed_of_solid (by simp [here, blank])]

end Recorder

end DataLexer
