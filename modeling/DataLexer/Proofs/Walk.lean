import DataLexer.Proofs.Peek
import DataLexer.Proofs.Positions

namespace DataLexer

/-- A way to move a cursor on. -/
inductive Move where
  | advance
  | advanceWhile (keep : Char → Bool)
  | advanceIf (c : Char)
  | skipByteOrderMark

namespace Cursor

def move (cursor : Cursor) : Move → Cursor
  | .advance => cursor.advance
  | .advanceWhile keep => cursor.advanceWhile keep
  | .advanceIf c => cursor.advanceIf c
  | .skipByteOrderMark => cursor.skipByteOrderMark

def walk (cursor : Cursor) (moves : List Move) : Cursor := moves.foldl move cursor

/-- The move steps over a byte order mark that takes no column. -/
def skipsMark (cursor : Cursor) : Move → Bool
  | .skipByteOrderMark => cursor.atByteOrderMark
  | _ => false

/-- How often a walk steps over a byte order mark that takes no column. -/
def marksSkipped (cursor : Cursor) : List Move → Nat
  | [] => 0
  | move :: moves => (cursor.skipsMark move).toNat + (cursor.move move).marksSkipped moves

/-- The text from the byte `start` up to the cursor can be cut out, and with the text ahead it is all that
follows there. -/
def CutsFrom (cursor : Cursor) (text : List Char) (start : Nat) : Prop :=
  start ≤ cursor.place.offset ∧ ∃ before between,
    splitAtByte? text start = some (before, between ++ cursor.ahead) ∧
      slice? text start cursor.place.offset = some between ∧ cursor.textFrom? start = some between

/-- What the moves do at a cursor. A run over characters stops at one that is not to be kept or at the end
of the text; a NUL in the text is a character like every other. -/
structure MoveLaw (cursor : Cursor) : Prop where
  advance : cursor.advance.ahead = cursor.ahead.tail
  kept : ∀ keep, ∃ passed, cursor.ahead = passed ++ (cursor.advanceWhile keep).ahead ∧
    ∀ c ∈ passed, keep c = true
  stops : ∀ keep,
    (cursor.advanceWhile keep).atEnd = true ∨ keep (cursor.advanceWhile keep).current = false
  isAt : ∀ c, cursor.isAt c = true ↔ cursor.atEnd = false ∧ cursor.current = c
  advanceIf : ∀ c, (cursor.advanceIf c).ahead = if cursor.isAt c then cursor.ahead.tail else cursor.ahead
  skip : cursor.skipByteOrderMark.ahead =
    if cursor.atByteOrderMark then cursor.ahead.tail else cursor.ahead

/-- The state of a cursor behind a walk from the start of a text. Its offset is a boundary of the text and
not before any earlier one. Line and column are counted off the text behind it, without a byte order mark
that was skipped, which happens once at most, at the start. -/
structure WalkLaw (text : List Char) (moves : List Move) (cursor : Cursor) : Prop where
  boundary : splitAtByte? text cursor.place.offset = some (cursor.read, cursor.ahead)
  slices : ∀ earlier later, moves = earlier ++ later →
    cursor.CutsFrom text ((ofText text).walk earlier).place.offset
  line : cursor.place.line = 1 + cursor.read.count '\n'
  column : cursor.place.column =
    1 + (lastLine (cursor.read.drop ((ofText text).marksSkipped moves))).length
  fits : text.length < UInt32.size - 1 →
    cursor.place.line < UInt32.size ∧ cursor.place.column < UInt32.size
  marks : (ofText text).marksSkipped moves = 0 ∨
    (ofText text).marksSkipped moves = 1 ∧ cursor.read.head? = some '\uFEFF'
  atMark : cursor.atByteOrderMark = true ↔ cursor.place.offset = 0 ∧ text.head? = some '\uFEFF'
  moveLaw : cursor.MoveLaw

theorem current_of_cons {cursor : Cursor} {c : Char} {rest : List Char} (here : cursor.ahead = c :: rest) :
    cursor.current = c := by
  rw [current, peek_eq, here]
  rfl

theorem isAt_iff {cursor : Cursor} {c : Char} :
    cursor.isAt c = true ↔ cursor.atEnd = false ∧ cursor.current = c := by
  unfold isAt atEnd
  cases here : cursor.ahead with
  | nil => simp
  | cons d rest => simp [current_of_cons here]

theorem advanceWhile_stops (keep : Char → Bool) (cursor : Cursor) :
    (cursor.advanceWhile keep).atEnd = true ∨ keep (cursor.advanceWhile keep).current = false := by
  have stopped := List.head?_dropWhile_not keep cursor.ahead
  rw [← ahead_advanceWhile] at stopped
  cases here : (cursor.advanceWhile keep).ahead with
  | nil => exact Or.inl (by simp [atEnd, here])
  | cons c rest =>
    rw [here] at stopped
    rw [current_of_cons here]
    exact Or.inr (by simpa using stopped)

theorem moveLaw (cursor : Cursor) : cursor.MoveLaw where
  advance := List.drop_one
  kept := by
    intro keep
    refine ⟨cursor.ahead.takeWhile keep, ?_, List.all_eq_true.mp List.all_takeWhile⟩
    rw [ahead_advanceWhile, List.takeWhile_append_dropWhile]
  stops := fun keep => cursor.advanceWhile_stops keep
  isAt := fun _ => isAt_iff
  advanceIf := by
    intro c
    unfold Cursor.advanceIf
    split
    · exact List.drop_one
    · rfl
  skip := by
    unfold Cursor.skipByteOrderMark
    split
    · exact List.drop_one
    · rfl

/-- A move skips a byte order mark or steps over some characters. -/
theorem move_cases (cursor : Cursor) (move : Move) : move = .skipByteOrderMark ∨
    ∃ n, cursor.move move = cursor.advanceBy n ∧ cursor.skipsMark move = false := by
  cases move with
  | advance => exact Or.inr ⟨1, rfl, rfl⟩
  | advanceWhile keep => exact Or.inr ⟨_, rfl, rfl⟩
  | advanceIf c =>
    by_cases hit : cursor.isAt c = true
    · exact Or.inr ⟨1, if_pos hit, rfl⟩
    · exact Or.inr ⟨0, if_neg hit, rfl⟩
  | skipByteOrderMark => exact Or.inl rfl

/-- The cursor has come from the start of the text, over so many byte order marks that take no column. -/
structure Counts (text : List Char) (marks : Nat) (cursor : Cursor) : Prop where
  whole : cursor.read ++ cursor.ahead = text
  mark : marks = 0 ∨ marks = 1 ∧ cursor.read.head? = some '\uFEFF'
  place : cursor.place =
    Position.after { offset := byteLength (cursor.read.take marks) } (cursor.read.drop marks)

namespace Counts

variable {text : List Char} {marks : Nat} {cursor : Cursor}

theorem start (text : List Char) : (ofText text).Counts text 0 := ⟨rfl, Or.inl rfl, rfl⟩

theorem marks_le (counts : cursor.Counts text marks) : marks ≤ cursor.read.length := by
  rcases counts.mark with rfl | ⟨rfl, first⟩
  · exact Nat.zero_le _
  · obtain ⟨rest, read⟩ := List.head?_eq_some_iff.mp first
    simp [read]

theorem offset (counts : cursor.Counts text marks) : cursor.place.offset = byteLength cursor.read := by
  rw [counts.place, Position.after_offset, ← byteLength_append, List.take_append_drop]

theorem advanceBy (counts : cursor.Counts text marks) (n : Nat) : (cursor.advanceBy n).Counts text marks where
  whole := by
    rw [read_advanceBy, ahead_advanceBy, List.append_assoc, List.take_append_drop, counts.whole]
  mark := counts.mark.imp_right fun ⟨one, first⟩ => ⟨one, by simp [first]⟩
  place := by
    rw [place_advanceBy, read_advanceBy, List.take_append_of_le_length counts.marks_le,
      List.drop_append_of_le_length counts.marks_le, Position.after_append, ← counts.place]

theorem skipByteOrderMark (counts : cursor.Counts text marks) :
    cursor.skipByteOrderMark.Counts text (marks + cursor.atByteOrderMark.toNat) := by
  rcases cursor.skipByteOrderMark_cases with ⟨same, unmarked⟩ | ⟨zero, ahead, read, place⟩
  · have none : cursor.atByteOrderMark = false := by
      simpa [atByteOrderMark] using unmarked
    rw [same, none]
    exact counts
  · have found : cursor.atByteOrderMark = true := by simp [atByteOrderMark, zero, ahead]
    rw [counts.offset, byteLength_eq_zero] at zero
    obtain rfl : marks = 0 := by
      have bound := counts.marks_le
      simpa [zero] using bound
    have here := counts.place
    rw [found]
    constructor
    · rw [read, List.append_assoc, List.singleton_append, ← ahead, counts.whole]
    · exact Or.inr ⟨rfl, by simp [read, zero]⟩
    · rw [place, here, read, zero]
      rfl

theorem move (counts : cursor.Counts text marks) (move : Move) :
    (cursor.move move).Counts text (marks + (cursor.skipsMark move).toNat) := by
  rcases cursor.move_cases move with rfl | ⟨n, moved, unmarked⟩
  · exact counts.skipByteOrderMark
  · rw [moved, unmarked]
    exact counts.advanceBy n

theorem walk (counts : cursor.Counts text marks) (moves : List Move) :
    (cursor.walk moves).Counts text (marks + cursor.marksSkipped moves) := by
  induction moves generalizing cursor marks with
  | nil => exact counts
  | cons first moves ih =>
    have later := ih (counts.move first)
    rwa [Nat.add_assoc] at later

end Counts

theorem read_prefix_move (cursor : Cursor) (move : Move) : cursor.read <+: (cursor.move move).read := by
  rcases cursor.move_cases move with rfl | ⟨n, moved, _⟩
  · have moved : cursor.move .skipByteOrderMark = cursor.skipByteOrderMark := rfl
    rw [moved]
    rcases cursor.skipByteOrderMark_cases with ⟨same, _⟩ | ⟨_, _, read, _⟩
    · exact ⟨[], by rw [same, List.append_nil]⟩
    · exact read ▸ List.prefix_append _ _
  · rw [moved, read_advanceBy]
    exact List.prefix_append _ _

theorem read_prefix_walk (cursor : Cursor) (moves : List Move) :
    cursor.read <+: (cursor.walk moves).read := by
  induction moves generalizing cursor with
  | nil => exact List.prefix_rfl
  | cons first moves ih => exact (cursor.read_prefix_move first).trans (ih (cursor.move first))

theorem walk_append (cursor : Cursor) (earlier later : List Move) :
    cursor.walk (earlier ++ later) = (cursor.walk earlier).walk later := List.foldl_append

namespace Counts

variable {text : List Char} {marks : Nat} {cursor : Cursor}

theorem boundary (counts : cursor.Counts text marks) :
    splitAtByte? text cursor.place.offset = some (cursor.read, cursor.ahead) := by
  rw [counts.offset, ← counts.whole]
  exact splitAtByte?_append cursor.read cursor.ahead

theorem line (counts : cursor.Counts text marks) : cursor.place.line = 1 + cursor.read.count '\n' := by
  have marked : (cursor.read.take marks).count '\n' = 0 := by
    rcases counts.mark with rfl | ⟨rfl, first⟩
    · rfl
    · obtain ⟨rest, read⟩ := List.head?_eq_some_iff.mp first
      rw [read]
      rfl
  have parts := congrArg (List.count '\n') (List.take_append_drop marks cursor.read)
  rw [List.count_append, marked, Nat.zero_add] at parts
  rw [counts.place, Position.after_line, parts]

theorem column (counts : cursor.Counts text marks) :
    cursor.place.column = 1 + (lastLine (cursor.read.drop marks)).length := by
  rw [counts.place]
  exact Position.after_column rfl _

theorem bounded (counts : cursor.Counts text marks) :
    cursor.place.line ≤ 1 + text.length ∧ cursor.place.column ≤ 1 + text.length := by
  have feeds := List.count_le_length (a := '\n') (l := cursor.read)
  have under := (lastLine_suffix (cursor.read.drop marks)).length_le
  rw [List.length_drop] at under
  rw [counts.line, counts.column, ← counts.whole, List.length_append]
  omega

theorem atMark_iff (counts : cursor.Counts text marks) :
    cursor.atByteOrderMark = true ↔ cursor.place.offset = 0 ∧ text.head? = some '\uFEFF' := by
  unfold atByteOrderMark
  rw [Bool.and_eq_true, decide_eq_true_eq, decide_eq_true_eq]
  refine and_congr_right fun zero => ?_
  rw [counts.offset, byteLength_eq_zero] at zero
  rw [← counts.whole, zero, List.nil_append]

/-- What stands between an earlier cursor and this one is what is read between them. -/
theorem cutsFrom {before : Cursor} {past : Nat} (counts : cursor.Counts text marks)
    (earlier : before.Counts text past) (begins : before.read <+: cursor.read) :
    cursor.CutsFrom text before.place.offset := by
  obtain ⟨between, read⟩ := begins
  have whole : text = before.read ++ between ++ cursor.ahead := by rw [read, counts.whole]
  have cut : slice? text before.place.offset cursor.place.offset = some between := by
    rw [earlier.offset, counts.offset, ← read, whole]
    exact slice?_append before.read between cursor.ahead
  refine ⟨?_, before.read, between, ?_, cut, ?_⟩
  · rw [earlier.offset, counts.offset, ← read, byteLength_append]
    omega
  · rw [earlier.offset, whole, List.append_assoc]
    exact splitAtByte?_append before.read _
  · have behind : cursor.behind.reverse = before.read ++ between := read.symm
    rw [textFrom?, behind, earlier.offset, splitAtByte?_append]
    rfl

end Counts

theorem counts_walk (text : List Char) (moves : List Move) :
    ((ofText text).walk moves).Counts text ((ofText text).marksSkipped moves) := by
  have counts := (Counts.start text).walk moves
  rwa [Nat.zero_add] at counts

/-- Behind every walk a cursor is at a boundary of the text, in the line and the column that the
characters behind it make. -/
theorem walk_law (text : List Char) (moves : List Move) :
    WalkLaw text moves ((ofText text).walk moves) := by
  have counts := counts_walk text moves
  constructor
  · exact counts.boundary
  · rintro earlier later rfl
    refine counts.cutsFrom (counts_walk text earlier) ?_
    rw [walk_append]
    exact read_prefix_walk _ later
  · exact counts.line
  · exact counts.column
  · intro small
    have bounded := counts.bounded
    omega
  · exact counts.mark
  · exact counts.atMark_iff
  · exact moveLaw _

/-- The bytes of a text from the place of the cursor on. -/
def bytesAhead (cursor : Cursor) (text : List Char) : List UInt8 := (encode text).drop cursor.place.offset

/-- What a look `n` characters ahead finds. The text ahead is what the bytes from the offset on decode to.
The look finds its character in place `n`, and NUL when there is none. It takes the byte in place `n` when the
bytes up to it are ASCII: that is when the characters up to it are, one byte each. Otherwise one of them
takes several bytes, or the bytes end, and it decodes. -/
structure PeekLaw (text : List Char) (n : Nat) (cursor : Cursor) : Prop where
  boundary : splitAtByte? text cursor.place.offset = some (cursor.read, cursor.ahead)
  decoded : (cursor.bytesAhead text).toByteArray.utf8Decode? = some cursor.ahead.toArray
  found : ∀ inside : n < cursor.ahead.length, cursor.peek n = cursor.ahead[n]
  past : cursor.ahead.length ≤ n → cursor.peek n = '\x00'
  route : cursor.peek n =
    if StartsAscii (cursor.bytesAhead text) (n + 1) then
      Char.ofNat ((cursor.bytesAhead text).getD n 0).toNat
    else cursor.ahead.getD n '\x00'
  ascii : StartsAscii (cursor.bytesAhead text) (n + 1) ↔
    n < cursor.ahead.length ∧ ∀ c ∈ cursor.ahead.take (n + 1), c.toNat < 0x80
  oneByteEach : StartsAscii (cursor.bytesAhead text) (n + 1) →
    cursor.ahead.take (n + 1) = ((cursor.bytesAhead text).take (n + 1)).map (Char.ofNat ·.toNat)
  wide : n < (cursor.bytesAhead text).length → ¬ StartsAscii (cursor.bytesAhead text) (n + 1) →
    ∃ c ∈ cursor.ahead.take (n + 1), 1 < c.utf8Size
  short : (cursor.bytesAhead text).length ≤ n → cursor.ahead.length ≤ n

theorem Counts.bytesAhead {text : List Char} {marks : Nat} {cursor : Cursor}
    (counts : cursor.Counts text marks) : cursor.bytesAhead text = encode cursor.ahead := by
  rw [Cursor.bytesAhead, counts.offset, ← counts.whole]
  exact drop_encode cursor.read cursor.ahead

/-- Behind every walk a look ahead finds the characters of the text that are ahead, whether it takes them
from the bytes or decodes them. -/
theorem peek_law (text : List Char) (moves : List Move) (n : Nat) :
    PeekLaw text n ((ofText text).walk moves) := by
  have counts := counts_walk text moves
  generalize (ofText text).walk moves = cursor at counts ⊢
  have bytes := counts.bytesAhead
  constructor
  case boundary => exact counts.boundary
  case decoded =>
    rw [bytes]
    exact List.utf8Decode?_utf8Encode
  case found =>
    intro inside
    simp [peek_eq, inside]
  case past =>
    intro none
    simp [peek_eq, none]
  case route =>
    rw [bytes]
    exact cursor.peek_bytes n
  case ascii =>
    rw [bytes]
    exact startsAscii_iff cursor.ahead (n + 1)
  case oneByteEach =>
    rw [bytes]
    exact fun ascii => take_of_ascii ascii.2
  case wide =>
    rw [bytes]
    exact fun enough mixed => exists_wide enough mixed
  case short =>
    rw [bytes, length_encode]
    exact (length_le_byteLength cursor.ahead).trans

end Cursor

end DataLexer
