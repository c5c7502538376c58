import DataLexer.Proofs.Balance
import DataLexer.Proofs.Notes

namespace DataLexer

namespace Slot

variable {slot : Slot}

theorem Tidy.begin (tidy : slot.Tidy) : slot.begin.Tidy := by
  unfold Slot.begin
  split
  · rename_i rows
    exact ⟨tidy.paren, fun _ => rows, tidy.waits⟩
  · exact tidy

theorem Tidy.forget (tidy : slot.Tidy) : slot.forget.Tidy := by
  unfold Slot.forget
  split
  · rename_i rows
    exact ⟨tidy.paren, tidy.begun, fun _ => rows⟩
  · exact tidy

theorem waiting_begin : slot.begin.waiting = slot.waiting := by
  unfold Slot.begin
  split <;> rfl

theorem begun_begin (rows : slot.begin.part = .rows) : slot.begin.begun = true := by
  unfold Slot.begin at *
  split at rows <;> simp_all

theorem waiting_forget (tidy : slot.Tidy) : slot.forget.waiting = none := by
  unfold Slot.forget
  split
  · rfl
  · rename_i other
    by_contra waits
    exact other (tidy.waits waits)

end Slot

namespace Recorder

variable {recorder : Recorder}

/-- What holds between two calls, as long as there is no end and no error. -/
structure Kept (recorder : Recorder) : Prop extends recorder.Tidy where
  idle : recorder.Idle

theorem kept_ofText (text : String) : (ofText text).Kept where
  slots := by simp [ofText]
  outer := by simp [ofText]
  head := by simp [ofText]
  place := rfl
  marked := by simp [ofText]
  idle := by simp [ofText, Idle]

@[simp] theorem slots_noteKind (kind : TokenKind) : (recorder.noteKind kind).slots = recorder.slots := by
  cases kind <;> rfl

@[simp] theorem cursor_noteKind (kind : TokenKind) : (recorder.noteKind kind).cursor = recorder.cursor := by
  cases kind <;> rfl

theorem headClosed_noteKind {kind : TokenKind} (solid : kind ≠ .comment)
    (closed : (recorder.noteKind kind).headClosed = true) :
    (recorder.noteKind kind).last = some .parenClose := by
  cases kind <;> simp_all [noteKind]

theorem cursor_markContent (depth : Nat) (kind : TokenKind) :
    (recorder.markContent depth kind).cursor = recorder.cursor := by
  unfold markContent
  grind

/-- A token keeps what its slots and the note on the table head keep. -/
theorem kept_accept {size : Nat} {kind : TokenKind} {slots behind : List Slot} {headClosed : Bool}
    (started : recorder.cursor.Started)
    (opened : ((recorder.past size slots headClosed).markContent recorder.slots.length kind).slots = behind)
    (tidy : ∀ slot ∈ behind, slot.Tidy) (idle : ∀ slot ∈ behind, slot.waiting = none)
    (outer : ∀ slot ∈ behind.tail, slot.part = .rows → slot.begun = true)
    (head : kind = .comment → headClosed = true → recorder.last = some .parenClose) :
    (recorder.accept size kind slots headClosed).2.Kept := by
  have same : (recorder.accept size kind slots headClosed).2.slots = behind :=
    (slots_noteKind kind).trans opened
  have cursor : (recorder.accept size kind slots headClosed).2.cursor = recorder.cursor.advanceBy size :=
    (cursor_noteKind kind).trans (cursor_markContent _ kind)
  have moved := started.advanceBy size
  rw [← cursor] at moved
  refine ⟨⟨?_, ?_, ?_, moved.place, fun _ => moved⟩, ?_⟩
  · rwa [same]
  · rw [same]
    exact fun slot member => ⟨idle slot (List.mem_of_mem_tail member), outer slot member⟩
  · intro closed
    by_cases comment : kind = .comment
    · subst comment
      exact head rfl closed
    · exact headClosed_noteKind comment closed
  · rw [Idle, same]
    exact idle

/-- Behind a comment no line feed waits: the one that ends the comment is still ahead. -/
theorem kept_comment (tidy : recorder.Tidy) (started : recorder.cursor.Started) (size : Nat) :
    (recorder.accept size .comment recorder.slots recorder.headClosed).2.Kept := by
  have opened : ((recorder.past size recorder.slots recorder.headClosed).markContent
      recorder.slots.length .comment).slots = recorder.slots.modifyHead Slot.forget := rfl
  refine kept_accept started opened ?_ ?_ ?_ fun _ => tidy.head
  · exact forall_modifyHead (fun slot member => (tidy.slots slot member).forget)
      fun slot member => tidy.slots slot (List.mem_of_mem_tail member)
  · exact forall_modifyHead (fun slot member => Slot.waiting_forget (tidy.slots slot member))
      fun slot member => (tidy.outer slot member).1
  · rw [List.tail_modifyHead]
    exact fun slot member => (tidy.outer slot member).2

/-- An opening delimiter is one more slot, and in every list of rows around it a row has begun. -/
theorem kept_solid {kind : TokenKind} (solid : kind ≠ .comment) (tidy : recorder.Tidy)
    (idle : recorder.Idle) (started : recorder.cursor.Started) (size : Nat) (inner : List Slot)
    (innermost : inner.tail = []) (tidyInner : ∀ slot ∈ inner, slot.Tidy ∧ slot.waiting = none) :
    (recorder.accept size kind (inner ++ recorder.slots) recorder.headClosed).2.Kept := by
  have begun : ∀ slot ∈ recorder.slots.modifyHead Slot.begin, slot.part = .rows → slot.begun = true :=
    forall_modifyHead (fun _ _ => Slot.begun_begin) fun slot member => (tidy.outer slot member).2
  refine kept_accept started (slots_markContent solid rfl) ?_ ?_ ?_ fun comment => absurd comment solid
  · refine List.forall_mem_append.mpr ⟨fun slot member => (tidyInner slot member).1, ?_⟩
    exact forall_modifyHead (fun slot member => (tidy.slots slot member).begin)
      fun slot member => tidy.slots slot (List.mem_of_mem_tail member)
  · refine List.forall_mem_append.mpr ⟨fun slot member => (tidyInner slot member).2, ?_⟩
    exact forall_modifyHead (fun slot member => Slot.waiting_begin.trans (idle slot member))
      fun slot member => idle slot (List.mem_of_mem_tail member)
  · intro slot member
    cases inner with
    | nil => exact begun slot (List.mem_of_mem_tail member)
    | cons first rest =>
      rw [List.tail_cons] at innermost
      exact begun slot (by simpa [innermost] using member)

theorem kept_close (tidy : recorder.Tidy) (started : recorder.cursor.Started) (delimiter : Delimiter)
    (running : (recorder.close delimiter).2.finished = false) : (recorder.close delimiter).2.Kept := by
  unfold close at *
  cases opened : recorder.slots with
  | nil => simp [opened, stop] at running
  | cons slot outer =>
    have solid : delimiter.closeKind ≠ .comment := by cases delimiter <;> simp [Delimiter.closeKind]
    -- a line feed may wait in the slot that is closed, but in none around it
    have below : ∀ slot ∈ outer, slot.waiting = none ∧ (slot.part = .rows → slot.begun = true) := by
      simpa [opened] using tidy.outer
    have closed : (recorder.past 1 outer (slot.part = .columns)).slots.length < recorder.slots.length := by
      simp [opened, past]
    simp only [opened] at running ⊢
    split at running
    · rename_i fits
      rw [if_pos fits]
      refine kept_accept started (by rw [markContent_of_closed solid closed]; rfl) ?_
        (fun slot member => (below slot member).1)
        (fun slot member => (below slot (List.mem_of_mem_tail member)).2)
        fun comment => absurd comment solid
      exact fun slot member => tidy.slots slot (by simp [opened, member])
    · cases running

theorem paren_of_columns {delimiter : Delimiter} (columns : recorder.partOf delimiter = .columns) :
    delimiter = .paren := by
  cases delimiter with
  | paren => rfl
  | block => cases columns
  | array =>
    rw [partOf] at columns
    split at columns <;> cases columns

/-- What is read where no row ends. A line feed may still wait before the end of the rows, which closes
its slot, and before a comment. -/
theorem kept_take (tidy : recorder.Tidy) (started : recorder.cursor.Started) (size : Nat) {form : Form}
    (idle : form ≠ .comment → form ≠ .closing .array → recorder.Idle)
    (running : (recorder.take size form).2.finished = false) : (recorder.take size form).2.Kept := by
  cases form with
  | comment => exact kept_comment tidy started size
  | string | number | colon | comma =>
    exact kept_solid (by simp) tidy (idle (by simp) (by simp)) started size [] rfl (by simp)
  | name =>
    refine kept_solid (fun comment => ?_) tidy (idle (by simp) (by simp)) started size [] rfl (by simp)
    have known := recorder.lexer.nameKind_cases (recorder.cursor.ahead.take size)
      (recorder.cursor.ahead.drop size)
    rw [← nameKind_lexer, comment] at known
    simp at known
  | opening delimiter =>
    refine kept_solid (by cases delimiter <;> simp [Delimiter.openKind]) tidy (idle (by simp) (by simp))
      started size [_] rfl ?_
    rintro slot (_ | ⟨_, ⟨⟩⟩)
    exact ⟨⟨paren_of_columns, by simp, by simp⟩, rfl⟩
  | closing delimiter => exact kept_close tidy started delimiter running

theorem kept_scan (tidy : recorder.Tidy) (started : recorder.cursor.Started) {c : Char} {rest : List Char}
    (idle : c ≠ ']' → Reading.startsComment c rest = false → recorder.Idle)
    (running : (recorder.scan c rest).2.finished = false) : (recorder.scan c rest).2.Kept := by
  unfold scan at *
  cases reading : Reading.ofText c rest with
  | unterminated | unexpected => simp [reading, stop] at running
  | lexeme form tail =>
    have spells := Reading.ofText_eq_lexeme_iff.mp reading
    simp only [reading] at running
    -- a comment and the end of the rows are known by how they start, and no other form starts so
    refine kept_take tidy started _ (fun noComment noEnd => idle ?_ ?_) running
    · rintro rfl
      have ending : (Form.closing .array).Spells ']' rest [] := ⟨rfl, rfl⟩
      exact noEnd (spells.unique ending).1
    · simpa using mt spells.startsComment_iff.mp noComment

/-- Where no row break is given, what waits does so before the end of the rows or a comment. -/
theorem idle_of_unbroken (tidy : recorder.Tidy) {c : Char} {rest : List Char}
    (here : recorder.cursor.ahead = c :: rest) (unbroken : recorder.takeBreak? = none) (other : c ≠ ']')
    (noComment : Reading.startsComment c rest = false) : recorder.Idle := by
  unfold takeBreak? at unbroken
  cases opened : recorder.slots with
  | nil => simp [Idle, opened]
  | cons slot outer =>
    have below : ∀ slot ∈ outer, slot.waiting = none ∧ (slot.part = .rows → slot.begun = true) := by
      simpa [opened] using tidy.outer
    rw [here, opened] at unbroken
    have first : slot.waiting = none := by simpa [other, noComment] using unbroken
    rw [Idle, opened]
    exact List.forall_mem_cons.mpr ⟨first, fun slot member => (below slot member).1⟩

/-- A row break takes the line feed that waited for it. -/
theorem kept_break (tidy : recorder.Tidy) {feed : Token} {after : Recorder}
    (broken : recorder.takeBreak? = some (feed, after)) : after.Kept := by
  unfold takeBreak? at broken
  cases ahead : recorder.cursor.ahead with
  | nil => simp [ahead] at broken
  | cons c rest =>
    cases opened : recorder.slots with
    | nil => simp [ahead, opened] at broken
    | cons slot outer =>
      have tidy' := tidy.slots
      have below := tidy.outer
      rw [opened] at tidy' below
      simp only [ahead, opened] at broken
      split at broken
      · cases broken
      · obtain ⟨span, _, same⟩ := Option.map_eq_some_iff.mp broken
        obtain ⟨_, rfl⟩ := Prod.mk.inj same
        obtain ⟨first, others⟩ := List.forall_mem_cons.mp tidy'
        have ended : slot.ended.Tidy := ⟨first.paren, by simp [Slot.ended], by simp [Slot.ended]⟩
        exact
          { slots := List.forall_mem_cons.mpr ⟨ended, others⟩
            outer := below
            head := tidy.head
            place := tidy.place
            marked := tidy.marked
            idle := List.forall_mem_cons.mpr ⟨rfl, fun slot member => (below slot member).1⟩ }

/-- What one call keeps. -/
theorem kept_next (kept : recorder.Kept) (running : recorder.next.2.finished = false) :
    recorder.next.2.Kept := by
  have tidy := kept.settle
  unfold next at *
  split at running
  · rename_i finished
    rw [if_pos finished]
    exact kept
  · rename_i going
    rw [if_neg going]
    unfold read at *
    cases broken : recorder.settle.takeBreak? with
    | some answer => exact kept_break tidy broken
    | none =>
      simp only [broken] at running ⊢
      cases here : recorder.settle.cursor.ahead with
      | nil =>
        simp only [here, finish] at running
        split at running <;> cases running
      | cons c rest =>
        simp only [here] at running ⊢
        exact kept_scan tidy (started_settle kept.toTidy) (idle_of_unbroken tidy here broken) running

end Recorder

theorem Lexer.Step.text_of_opens {lexer after : Lexer} {token : Token} {delimiter : Delimiter}
    (step : Step lexer (.ok token) after) (opens : token.kind.opens? = some delimiter) :
    token.text = String.ofList [delimiter.openChar] := by
  cases step with
  | done | last | rowBreak => cases opens
  | lexeme _ spells _ passes =>
    have form := passes.form
    rw [TokenKind.eq_openKind opens] at form
    have opening : delimiter.openKind.form? = some (.opening delimiter) := by cases delimiter <;> rfl
    cases opening.symm.trans form
    obtain ⟨rfl, rfl⟩ := spells
    exact passes.text

theorem Reached.text_of_opens {source : String} {past : List Token} {lexer : Lexer}
    (reached : Reached source past lexer) {token : Token} (member : token ∈ past) {delimiter : Delimiter}
    (opens : token.kind.opens? = some delimiter) : token.text = String.ofList [delimiter.openChar] := by
  induction reached with
  | start => cases member
  | token _ call ih =>
    rcases List.mem_cons.mp member with rfl | earlier
    · exact (Lexer.step_of_next call).text_of_opens opens
    · exact ih earlier
  | failed _ _ ih => exact ih member

/-- The open brackets are among those that the tokens open, in the same order. -/
theorem pending_sublist (past : List Token) : (pending past).Sublist (past.filterMap Token.opener?) := by
  induction past with
  | nil => exact .slnil
  | cons token past ih =>
    cases opens : token.kind.opens? with
    | some delimiter =>
      have opener : token.opener? = some ⟨delimiter, token.span⟩ := by simp [Token.opener?, opens]
      rw [pending, unmatched_of_opens opens]
      simp only [List.filterMap_cons, List.head?_cons, Option.bind_some, opener]
      exact ih.cons_cons _
    | none =>
      have opener : token.opener? = none := by simp [Token.opener?, opens]
      rw [List.filterMap_cons, opener]
      cases closes : token.kind.closes? with
      | none =>
        rw [pending, unmatched_of_neither opens closes]
        exact ih
      | some delimiter =>
        rw [pending, unmatched_of_closes closes]
        exact ((List.tail_sublist _).filterMap _).trans ih

theorem Token.opener?_eq_some {token : Token} {opener : Opener} :
    token.opener? = some opener ↔ token.kind.opens? = some opener.delimiter ∧ token.span = opener.span := by
  obtain ⟨delimiter, span⟩ := opener
  simp [opener?]

/-- The opener covers one character of the text, the one that opens its delimiter. -/
def Opener.Marks (opener : Opener) (text : List Char) : Prop :=
  ∃ before after, text = before ++ opener.delimiter.openChar :: after ∧
    opener.span = (Position.behind before).upTo (Position.behind (before ++ [opener.delimiter.openChar]))

theorem Opener.Marks.start_lt {opener : Opener} {text : List Char} (marks : opener.Marks text) :
    opener.span.start < opener.span.stop := by
  obtain ⟨before, after, _, span⟩ := marks
  have wide := opener.delimiter.openChar.utf8Size_pos
  simp only [span, Position.upTo, Position.behind_offset, byteLength_append, byteLength]
  omega

/-- The opener stands further inside the text. -/
def Opener.Inside (inner outer : Opener) : Prop :=
  outer.span.start < inner.span.start ∧ outer.span.stop ≤ inner.span.start

namespace Reached

variable {source : String} {past : List Token} {lexer : Lexer}

theorem opener_of_pending {opener : Opener} (member : opener ∈ DataLexer.pending past) :
    ∃ token ∈ past, token.kind.opens? = some opener.delimiter ∧ token.span = opener.span := by
  have opened := (pending_sublist past).subset member
  obtain ⟨token, inside, same⟩ := List.mem_filterMap.mp opened
  exact ⟨token, inside, Token.opener?_eq_some.mp same⟩

theorem marks_of_pending (reached : Reached source past lexer) (running : lexer.finished = false)
    {opener : Opener} (member : opener ∈ DataLexer.pending past) : opener.Marks source.toList := by
  have standing := reached.standing running
  obtain ⟨token, inside, opens, span⟩ := opener_of_pending member
  obtain ⟨before, after, text, _, _, place⟩ := standing.layout.mem inside
  have lexeme : token.text.toList = [opener.delimiter.openChar] := by
    rw [reached.text_of_opens inside opens, String.toList_ofList]
  rw [lexeme] at text place
  exact ⟨before, after ++ lexer.cursor.ahead, by rw [← standing.whole, text]; simp, span.symm.trans place⟩

theorem stop_of_pending (reached : Reached source past lexer) (running : lexer.finished = false)
    {opener : Opener} (member : opener ∈ DataLexer.pending past) :
    opener.span.stop ≤ lexer.cursor.place.offset := by
  have standing := reached.standing running
  obtain ⟨token, inside, _, span⟩ := opener_of_pending member
  rw [standing.place, Position.behind_offset, ← span]
  exact standing.layout.stop_le inside

theorem pairwise_pending (reached : Reached source past lexer) (running : lexer.finished = false) :
    (DataLexer.pending past).Pairwise Opener.Inside := by
  have apart : (past.filterMap Token.opener?).Pairwise fun inner outer =>
      outer.span.stop ≤ inner.span.start := by
    refine List.pairwise_filterMap.mpr ((reached.standing running).layout.ordered.imp ?_)
    intro later earlier order inner opensInner outer opensOuter
    rwa [← (Token.opener?_eq_some.mp opensInner).2, ← (Token.opener?_eq_some.mp opensOuter).2]
  refine (apart.sublist (pending_sublist past)).imp_of_mem fun {inner outer} _ member order => ?_
  have wide := (reached.marks_of_pending running member).start_lt
  exact ⟨Nat.lt_of_lt_of_le wide order, order⟩

end Reached

/-- The lexer behind so many calls on a text. -/
def Lexer.behind (source : String) : Nat → Lexer
  | 0 => .ofText source
  | calls + 1 => (behind source calls).next.2

def Recorder.behind (source : String) : Nat → Recorder
  | 0 => .ofText source
  | calls + 1 => (behind source calls).next.2

theorem Lexer.reached_behind (source : String) (calls : Nat) :
    ∃ past, Reached source past (Lexer.behind source calls) := by
  induction calls with
  | zero => exact ⟨[], .start⟩
  | succ calls ih =>
    obtain ⟨past, reached⟩ := ih
    match call : (Lexer.behind source calls).next with
    | (.ok token, after) =>
      have behind : Lexer.behind source (calls + 1) = after := congrArg Prod.snd call
      exact ⟨token :: past, behind ▸ reached.token call⟩
    | (.error error, after) =>
      have behind : Lexer.behind source (calls + 1) = after := congrArg Prod.snd call
      exact ⟨past, behind ▸ reached.failed call⟩

/-- The notes between two calls that have met neither the end nor an error. No line feed waits, the open
delimiters stand in the text behind the cursor, one further inside than the other, rows begin in lists of
rows only and have begun in those around another delimiter, and a closed list of columns is the last
thing read. -/
structure Recorder.Sound (source : String) (recorder : Recorder) : Prop where
  idle : ∀ slot ∈ recorder.slots, slot.waiting = none
  openers : ∀ slot ∈ recorder.slots, slot.opener.Marks source.toList
  inward : recorder.slots.Pairwise (·.opener.Inside ·.opener)
  stop : ∀ slot ∈ recorder.slots, slot.opener.span.stop ≤ recorder.cursor.place.offset
  begun : ∀ slot ∈ recorder.slots, slot.begun = true → slot.part = .rows
  outer : ∀ slot ∈ recorder.slots.tail, slot.part = .rows → slot.begun = true
  head : recorder.headClosed = true → recorder.last = some .parenClose

/-- Call by call the notes are about the state of the lexer, they give its answers, and they are sound. -/
structure RecorderLaw (source : String) (calls : Nat) : Prop where
  state : (Recorder.behind source calls).lexer = Lexer.behind source calls
  answer : (Recorder.behind source calls).next.1 = (Lexer.behind source calls).next.1
  sound : (Recorder.behind source calls).finished = false → (Recorder.behind source calls).Sound source

namespace Recorder

theorem finished_of_next {recorder : Recorder} (running : recorder.next.2.finished = false) :
    recorder.finished = false := by
  by_contra finished
  rw [next, if_pos (by simpa using finished)] at running
  exact finished running

theorem kept_behind (source : String) (calls : Nat) (running : (behind source calls).finished = false) :
    (behind source calls).Kept := by
  induction calls with
  | zero => exact kept_ofText source
  | succ calls ih => exact kept_next (ih (finished_of_next running)) running

theorem stripped_behind (source : String) (calls : Nat) :
    stripped (behind source calls).next = (behind source calls).lexer.next :=
  stripped_next fun running =>
    have kept := kept_behind source calls running
    ⟨kept.toTidy, kept.idle⟩

theorem lexer_behind (source : String) (calls : Nat) :
    (behind source calls).lexer = Lexer.behind source calls := by
  induction calls with
  | zero => rfl
  | succ calls ih =>
    have same := congrArg Prod.snd (stripped_behind source calls)
    rw [ih] at same
    exact same

theorem Kept.sound {source : String} {past : List Token} {recorder : Recorder} (kept : recorder.Kept)
    (reached : Reached source past recorder.lexer) (running : recorder.finished = false) :
    recorder.Sound source := by
  have openers : recorder.slots.map (·.opener) = pending past := by
    rw [← reached.pending, lexer, List.map_map]
    rfl
  have opened {slot : Slot} (member : slot ∈ recorder.slots) : slot.opener ∈ pending past := by
    rw [← openers]
    exact List.mem_map_of_mem member
  have apart := reached.pairwise_pending running
  rw [← openers, List.pairwise_map] at apart
  exact
    { idle := kept.idle
      openers := fun slot member => reached.marks_of_pending running (opened member)
      inward := apart
      stop := fun slot member => reached.stop_of_pending running (opened member)
      begun := fun slot member => (kept.slots slot member).begun
      outer := fun slot member => (kept.outer slot member).2
      head := kept.head }

end Recorder

/-- The lexer is the machine that takes these notes, and the notes are sound between its calls. -/
theorem recorder_law (source : String) (calls : Nat) : RecorderLaw source calls where
  state := Recorder.lexer_behind source calls
  answer := by
    rw [← Recorder.lexer_behind source calls]
    exact congrArg Prod.fst (Recorder.stripped_behind source calls)
  sound := by
    intro running
    obtain ⟨past, reached⟩ := Lexer.reached_behind source calls
    rw [← Recorder.lexer_behind source calls] at reached
    exact (Recorder.kept_behind source calls running).sound reached running

end DataLexer
