import DataLexer.Proofs.Recorder

namespace DataLexer

def Part.role (begun : Bool) : Part → Role
  | .nested => .nested
  | .columns => .columns
  | .rows => .rows begun

def Slot.frame (slot : Slot) : Frame := ⟨slot.opener, slot.part.role slot.begun⟩

namespace Recorder

def head (recorder : Recorder) : TableHead :=
  if recorder.last = some .tableKeyword then .keyword
  else if recorder.headClosed then .columns
  else .none

/-- The lexer that the notes are about. -/
def lexer (recorder : Recorder) : Lexer where
  cursor := recorder.cursor
  frames := recorder.slots.map Slot.frame
  head := recorder.head
  finished := recorder.finished

end Recorder

namespace Slot

variable {slot : Slot} {feed : Span}

@[simp] theorem frame_noteFeed : (slot.noteFeed feed).frame = slot.frame := by
  unfold noteFeed
  split <;> rfl

@[simp] theorem frame_forget : slot.forget.frame = slot.frame := by
  unfold forget
  split <;> rfl

theorem frame_begin : slot.begin.frame = slot.frame.startRow := by
  obtain ⟨opener, part, begun, waiting⟩ := slot
  cases part <;> rfl

theorem frame_ended : slot.ended.frame = slot.frame.endRow := by
  obtain ⟨opener, part, begun, waiting⟩ := slot
  cases part <;> rfl

theorem columns_iff : slot.frame.role = .columns ↔ slot.part = .columns := by
  obtain ⟨opener, part, begun, waiting⟩ := slot
  cases part <;> simp [frame, Part.role]

theorem rows_iff : slot.frame.role = .rows true ↔ slot.part = .rows ∧ slot.begun = true := by
  obtain ⟨opener, part, begun, waiting⟩ := slot
  cases part <;> simp [frame, Part.role]

@[simp] theorem frame_noteGap (feed? : Option Span) : (slot.noteGap feed?).frame = slot.frame := by
  cases feed? <;> simp [noteGap]

theorem waiting_noteGap (idle : slot.waiting = none) (feed? : Option Span) :
    (slot.noteGap feed?).waiting = if slot.frame.role = .rows true then feed? else none := by
  cases feed? with
  | none => simp [noteGap, idle]
  | some feed =>
    simp only [rows_iff, noteGap, Option.elim_some, noteFeed, idle, and_true]
    split
    · rfl
    · exact idle

end Slot

/-- What holds of a slot at every moment. -/
structure Slot.Tidy (slot : Slot) : Prop where
  paren : slot.part = .columns → slot.opener.delimiter = .paren
  begun : slot.begun = true → slot.part = .rows
  waits : slot.waiting ≠ none → slot.part = .rows

theorem Slot.Tidy.noteGap {slot : Slot} (feed? : Option Span) (tidy : slot.Tidy) :
    (slot.noteGap feed?).Tidy := by
  cases feed? with
  | none => exact tidy
  | some feed =>
    simp only [Slot.noteGap, Option.elim_some, Slot.noteFeed]
    split
    · rename_i noted
      exact ⟨tidy.paren, tidy.begun, fun _ => noted.1⟩
    · exact tidy

theorem forall_modifyHead {α : Type} {P : α → Prop} {f : α → α} {as : List α}
    (first : ∀ a ∈ as, P (f a)) (rest : ∀ a ∈ as.tail, P a) : ∀ a ∈ as.modifyHead f, P a := by
  cases as with
  | nil => simp
  | cons a as => exact List.forall_mem_cons.mpr ⟨first a (List.mem_cons_self ..), rest⟩

namespace Recorder

variable {recorder : Recorder}

/-- What holds at every moment of a call. Only the innermost delimiter has a line feed to wait for, and
only there a row is still to begin. -/
structure Tidy (recorder : Recorder) : Prop where
  slots : ∀ slot ∈ recorder.slots, slot.Tidy
  outer : ∀ slot ∈ recorder.slots.tail, slot.waiting = none ∧ (slot.part = .rows → slot.begun = true)
  head : recorder.headClosed = true → recorder.last = some .parenClose
  place : recorder.cursor.place = Position.behind recorder.cursor.read
  marked : recorder.checked = true → recorder.cursor.Started

/-- No line feed waits. -/
def Idle (recorder : Recorder) : Prop := ∀ slot ∈ recorder.slots, slot.waiting = none

theorem skipMark_eq (tidy : recorder.Tidy) : recorder.skipMark =
    { recorder with cursor := recorder.cursor.skipByteOrderMark, checked := true } := by
  unfold skipMark
  split
  · rename_i checked
    rw [(tidy.marked checked).skipByteOrderMark, ← checked]
  · rfl

theorem settle_eq (tidy : recorder.Tidy) : recorder.settle =
    passed { recorder with cursor := recorder.cursor.skipByteOrderMark, checked := true } := by
  rw [settle, skipMark_eq tidy]
  exact skipBlank_eq rfl

theorem slots_settle (tidy : recorder.Tidy) : recorder.settle.slots =
    recorder.slots.modifyHead (Slot.noteGap recorder.cursor.skipByteOrderMark.lineFeed?) := by
  rw [settle_eq tidy]
  rfl

theorem started_settle (tidy : recorder.Tidy) : recorder.settle.cursor.Started := by
  rw [settle_eq tidy]
  exact (Cursor.started_skipByteOrderMark tidy.place).advanceBy _

theorem Tidy.settle (tidy : recorder.Tidy) : recorder.settle.Tidy := by
  have started := started_settle tidy
  have slots := slots_settle tidy
  refine ⟨?_, ?_, ?_, started.place, fun _ => started⟩
  · rw [slots]
    exact forall_modifyHead (fun slot member => (tidy.slots slot member).noteGap _)
      fun slot member => tidy.slots slot (List.mem_of_mem_tail member)
  · rw [slots, List.tail_modifyHead]
    exact tidy.outer
  · rw [settle_eq tidy]
    exact tidy.head

theorem lexer_settle (tidy : recorder.Tidy) : recorder.settle.lexer = recorder.lexer.settled := by
  have frames (feed? : Option Span) : (recorder.slots.modifyHead (Slot.noteGap feed?)).map Slot.frame =
      recorder.slots.map Slot.frame := by
    cases recorder.slots <;> simp
  rw [settle_eq tidy, passed, lexer, frames]
  rfl

theorem ahead_settle (tidy : recorder.Tidy) :
    recorder.settle.cursor.ahead = recorder.lexer.settled.cursor.ahead := by
  rw [← lexer_settle tidy]
  rfl

theorem rowEnds_iff {slot : Slot} {outer : List Slot} {c : Char} {rest : List Char}
    (opened : recorder.slots = slot :: outer) : recorder.lexer.rowEnds c rest = true ↔
      slot.frame.role = .rows true ∧ ¬ (c = ']' ∨ Reading.startsComment c rest = true) := by
  simp [Lexer.rowEnds_iff, lexer, opened]

theorem lexer_ended {slot : Slot} {outer : List Slot} (opened : recorder.slots = slot :: outer) :
    ({ recorder with slots := slot.ended :: outer } : Recorder).lexer = recorder.lexer.endRow := by
  simp only [lexer, Lexer.endRow, opened, List.map_cons, Slot.frame_ended]
  rfl

/-- The row break that is due is the one that the lexer finds. -/
theorem takeBreak?_settle (tidy : recorder.Tidy) (idle : recorder.Idle) {c : Char} {rest : List Char}
    (here : recorder.settle.cursor.ahead = c :: rest) :
    recorder.settle.takeBreak?.map (Prod.map id lexer) =
      if recorder.lexer.rowEnds c rest then
        recorder.cursor.skipByteOrderMark.lineFeed?.map fun feed =>
          (⟨.newline, "\n", feed⟩, recorder.lexer.settled.endRow)
      else none := by
  have slots := slots_settle tidy
  -- before the call nothing waits, so the innermost slot waits for the line feed of this gap or for none
  generalize recorder.cursor.skipByteOrderMark.lineFeed? = feed? at slots ⊢
  unfold takeBreak?
  rw [here]
  cases opened : recorder.slots with
  | nil =>
    have none : recorder.settle.slots = [] := by rw [slots, opened]; rfl
    simp [none, Lexer.rowEnds, lexer, opened]
  | cons slot outer =>
    have noted : recorder.settle.slots = slot.noteGap feed? :: outer := by rw [slots, opened]; rfl
    have waiting := Slot.waiting_noteGap (idle slot (by simp [opened])) feed?
    have ended := lexer_ended noted
    rw [lexer_settle tidy] at ended
    rw [noted]
    simp only [rowEnds_iff opened]
    by_cases stays : c = ']' ∨ Reading.startsComment c rest = true
    · simp [stays]
    · rw [if_neg stays, waiting]
      by_cases role : slot.frame.role = .rows true
      · simp [role, stays, Prod.map, Function.comp_def, ended]
      · simp [role]

/-- With the notes left out, a call is one of the lexer. -/
def stripped (answer : Except LexError Token × Recorder) : Except LexError Token × Lexer :=
  (answer.1, answer.2.lexer)

theorem stripped_stop (cursor : Cursor) (error : LexError) :
    stripped (recorder.stop cursor error) = recorder.lexer.stop cursor error := rfl

theorem stripped_finish : stripped recorder.finish = recorder.lexer.finish := by
  unfold finish Lexer.finish
  cases opened : recorder.slots with
  | nil => simp [lexer, opened, stripped, head]
  | cons slot outer => simp [lexer, opened, stripped, head, stop, Lexer.stop, Slot.frame]

theorem nameKind_lexer (name rest : List Char) :
    recorder.nameKind name rest = recorder.lexer.nameKind name rest := by
  unfold nameKind Lexer.nameKind
  cases opened : recorder.slots <;> simp [lexer, opened, Slot.columns_iff]

/-- A token marks the innermost slot of those that were open before it. -/
theorem slots_markContent {kind : TokenKind} (solid : kind ≠ .comment) {inner outer : List Slot}
    (opened : recorder.slots = inner ++ outer) :
    (recorder.markContent outer.length kind).slots = inner ++ outer.modifyHead Slot.begin := by
  unfold markContent
  rw [if_neg solid]
  by_cases none : outer.length = 0
  · rw [if_pos (Or.inl none), opened, List.eq_nil_of_length_eq_zero none]
    rfl
  · have within : ¬ (outer.length = 0 ∨ recorder.slots.length < outer.length) := by
      rw [opened, List.length_append]
      omega
    rw [if_neg within, opened, List.length_append, Nat.add_sub_cancel]
    exact List.modifyTailIdx_add (List.modifyHead Slot.begin) 0 inner outer

theorem lexer_markContent (depth : Nat) (kind : TokenKind) :
    (recorder.markContent depth kind).lexer =
      { recorder.lexer with frames := (recorder.markContent depth kind).slots.map Slot.frame } := by
  unfold markContent
  grind [lexer, head]

theorem lexer_noteKind (kind : TokenKind) : (recorder.noteKind kind).lexer =
    { recorder.lexer with head := (recorder.noteKind kind).head } := by
  cases kind <;> rfl

theorem head_noteKind {kind : TokenKind} (solid : kind ≠ .comment) (noParen : kind ≠ .parenClose) :
    (recorder.noteKind kind).head = if kind = .tableKeyword then .keyword else .none := by
  cases kind <;> simp_all [noteKind, head]

theorem stripped_accept (size : Nat) (kind : TokenKind) (slots : List Slot) (headClosed : Bool) :
    stripped (recorder.accept size kind slots headClosed) = recorder.lexer.accept size kind
      (((recorder.past size slots headClosed).markContent recorder.slots.length kind).slots.map Slot.frame)
      (((recorder.past size slots headClosed).markContent recorder.slots.length kind).noteKind kind).head := by
  unfold accept stripped
  simp only [lexer_noteKind, lexer_markContent]
  rfl

theorem frames_begin (slots : List Slot) : (slots.modifyHead Slot.begin).map Slot.frame =
    (slots.map Slot.frame).modifyHead Frame.startRow := by
  cases slots <;> simp [Slot.frame_begin]

theorem stripped_comment (size : Nat) :
    stripped (recorder.accept size .comment recorder.slots recorder.headClosed) =
      recorder.lexer.accept size .comment recorder.lexer.frames recorder.lexer.head := by
  have frames : (recorder.slots.modifyHead Slot.forget).map Slot.frame = recorder.slots.map Slot.frame := by
    cases recorder.slots <;> simp
  have same := recorder.stripped_accept size .comment recorder.slots recorder.headClosed
  simp only [markContent, if_pos, past, frames] at same
  exact same

/-- A token that is no comment and closes nothing begins the row that it stands in. -/
theorem stripped_solid {kind : TokenKind} (solid : kind ≠ .comment) (noParen : kind ≠ .parenClose)
    (size : Nat) (inner : List Slot) :
    stripped (recorder.accept size kind (inner ++ recorder.slots) recorder.headClosed) =
      recorder.lexer.accept size kind (inner.map Slot.frame ++ recorder.lexer.startRow)
        (if kind = .tableKeyword then .keyword else .none) := by
  have opened : (recorder.past size (inner ++ recorder.slots) recorder.headClosed).slots =
    inner ++ recorder.slots := rfl
  rw [stripped_accept, slots_markContent solid opened, head_noteKind solid noParen, List.map_append,
    frames_begin, Lexer.startRow_eq]
  rfl

theorem markContent_of_closed {kind : TokenKind} {depth : Nat} (solid : kind ≠ .comment)
    (closed : recorder.slots.length < depth) : recorder.markContent depth kind = recorder := by
  unfold markContent
  rw [if_neg solid, if_pos (Or.inr closed)]

/-- Only a parenthesis closes a list of columns. -/
theorem head_close {slot : Slot} (tidy : slot.Tidy) (size : Nat) (outer : List Slot) :
    ((recorder.past size outer (slot.part = .columns)).noteKind slot.opener.delimiter.closeKind).head =
      if slot.frame.role = .columns then .columns else .none := by
  have paren := tidy.paren
  simp only [Slot.columns_iff]
  cases delimiter : slot.opener.delimiter with
  | paren => simp [noteKind, head, past, Delimiter.closeKind]
  | block | array =>
    have other : slot.part ≠ .columns := fun columns => by cases delimiter.symm.trans (paren columns)
    simp [noteKind, head, Delimiter.closeKind, other]

theorem stripped_close (tidy : ∀ slot ∈ recorder.slots, slot.Tidy) (delimiter : Delimiter) :
    stripped (recorder.close delimiter) = recorder.lexer.close delimiter := by
  unfold close Lexer.close
  cases opened : recorder.slots with
  | nil => simp [lexer, opened, stripped_stop]
  | cons slot outer =>
    have frames : recorder.lexer.frames = slot.frame :: outer.map Slot.frame := by simp [lexer, opened]
    simp only [frames]
    by_cases fits : slot.opener.delimiter = delimiter
    · have solid : delimiter.closeKind ≠ .comment := by cases delimiter <;> simp [Delimiter.closeKind]
      have closed : (recorder.past 1 outer (slot.part = .columns)).slots.length < recorder.slots.length := by
        simp [opened, past]
      rw [if_pos fits, if_pos (show slot.frame.opener.delimiter = delimiter from fits), stripped_accept,
        markContent_of_closed solid closed, ← fits, head_close (tidy slot (by simp [opened]))]
      rfl
    · rw [if_neg fits, if_neg (show slot.frame.opener.delimiter ≠ delimiter from fits), stripped_stop]
      rfl

theorem role_partOf (closed : recorder.headClosed = true → recorder.last = some .parenClose)
    (delimiter : Delimiter) :
    (recorder.partOf delimiter).role false = recorder.lexer.head.roleOf delimiter := by
  have known : recorder.lexer.head = recorder.head := rfl
  rw [known, head]
  -- the keyword and a closed list of columns exclude each other, so it does not matter which is asked first
  by_cases keyword : recorder.last = some .tableKeyword
  · have unset : recorder.headClosed ≠ true := fun set => by simp [closed set] at keyword
    cases delimiter <;> simp [partOf, keyword, unset, Part.role, TableHead.roleOf]
  · by_cases set : recorder.headClosed = true <;> cases delimiter <;>
      simp [partOf, keyword, set, Part.role, TableHead.roleOf]

/-- With the notes left out, a lexeme is taken as the lexer takes it. -/
theorem stripped_take (tidy : recorder.Tidy) (size : Nat) (form : Form) :
    stripped (recorder.take size form) = recorder.lexer.take size form := by
  cases form with
  | comment => exact recorder.stripped_comment size
  | string => exact stripped_solid (by simp) (by simp) size []
  | number => exact stripped_solid (by simp) (by simp) size []
  | colon => exact stripped_solid (by simp) (by simp) size []
  | comma => exact stripped_solid (by simp) (by simp) size []
  | name =>
    have known := recorder.lexer.nameKind_cases (recorder.cursor.ahead.take size)
      (recorder.cursor.ahead.drop size)
    simp only [take, nameKind_lexer]
    exact stripped_solid (by rintro same; simp [same] at known) (by rintro same; simp [same] at known) size []
  | opening delimiter =>
    have kind : delimiter.openKind ≠ .comment ∧ delimiter.openKind ≠ .parenClose ∧
        delimiter.openKind ≠ .tableKeyword := by
      cases delimiter <;> simp [Delimiter.openKind]
    obtain ⟨solid, noParen, other⟩ := kind
    have taken := recorder.stripped_solid solid noParen size
      [⟨⟨delimiter, recorder.cursor.place.upTo recorder.cursor.advance.place⟩, recorder.partOf delimiter,
        false, none⟩]
    rw [if_neg other] at taken
    simp only [take, Lexer.take, ← role_partOf tidy.head]
    exact taken
  | closing delimiter => exact stripped_close tidy.slots delimiter

theorem stripped_scan (tidy : recorder.Tidy) (c : Char) (rest : List Char) :
    stripped (recorder.scan c rest) = recorder.lexer.scan c rest := by
  unfold scan Lexer.scan
  cases Reading.ofText c rest with
  | lexeme form tail => exact stripped_take tidy (tail.length + 1) form
  | unterminated tail => exact stripped_stop _ _
  | unexpected => exact stripped_stop _ _

theorem stripped_read_of_nothing (nothing : recorder.cursor.ahead = []) :
    stripped recorder.read = recorder.lexer.finish := by
  have unbroken : recorder.takeBreak? = none := by simp [takeBreak?, nothing]
  rw [read, unbroken, nothing]
  exact stripped_finish

theorem stripped_read_of_unbroken (tidy : recorder.Tidy) {c : Char} {rest : List Char}
    (here : recorder.cursor.ahead = c :: rest) (unbroken : recorder.takeBreak? = none) :
    stripped recorder.read = recorder.lexer.scan c rest := by
  rw [read, unbroken, here]
  exact stripped_scan tidy c rest

/-- With the notes left out, a call does what the lexer does. -/
theorem stripped_next (kept : recorder.finished = false → recorder.Tidy ∧ recorder.Idle) :
    stripped recorder.next = recorder.lexer.next := by
  cases running : recorder.finished with
  | true =>
    rw [Lexer.next_of_finished running, next, if_pos running]
    rfl
  | false =>
    obtain ⟨tidy, idle⟩ := kept running
    have cursor : recorder.lexer.cursor = recorder.cursor := rfl
    rw [Lexer.next_of_running running, next, if_neg (by simp [running]), ← ahead_settle tidy,
      ← lexer_settle tidy, cursor]
    cases here : recorder.settle.cursor.ahead with
    | nil => exact stripped_read_of_nothing here
    | cons c rest =>
      -- the recorder asks its notes first, the lexer looks for a line feed and then for a row that it ends
      have due := takeBreak?_settle tidy idle here
      have goesOn := stripped_read_of_unbroken tidy.settle here
      cases found : recorder.cursor.skipByteOrderMark.lineFeed? with
      | none => exact goesOn (by simpa [found] using due)
      | some feed =>
        by_cases ends : recorder.lexer.rowEnds c rest = true
        · rw [if_pos ends, found, Option.map_some, ← lexer_settle tidy] at due
          obtain ⟨⟨token, after⟩, broken, same⟩ := Option.map_eq_some_iff.mp due
          simp only [if_pos ends, read, broken]
          exact congrArg (Prod.map Except.ok id) same
        · rw [if_neg ends] at due
          simp only [if_neg ends]
          exact goesOn (by simpa using due)

end Recorder

end DataLexer
