import DataLexer.Cursor

namespace DataLexer

@[simp] theorem byteLength_append (before after : List Char) :
    byteLength (before ++ after) = byteLength before + byteLength after := by
  induction before with
  | nil => simp [byteLength]
  | cons c before ih => simp only [List.cons_append, byteLength, ih, Nat.add_assoc]

theorem byteLength_pos {text : List Char} (nonempty : text ≠ []) : 0 < byteLength text := by
  cases text with
  | nil => exact absurd rfl nonempty
  | cons c rest =>
    have wide := c.utf8Size_pos
    simp only [byteLength]
    omega

theorem byteLength_eq_zero {text : List Char} : byteLength text = 0 ↔ text = [] := by
  constructor
  · intro none
    by_cases empty : text = []
    · exact empty
    · have positive := byteLength_pos empty
      omega
  · rintro rfl
    rfl

theorem splitAtByte?_append (before after : List Char) :
    splitAtByte? (before ++ after) (byteLength before) = some (before, after) := by
  induction before with
  | nil => simp [byteLength, splitAtByte?]
  | cons c before ih =>
    have wide := c.utf8Size_pos
    obtain ⟨n, bytes⟩ : ∃ n, byteLength (c :: before) = n + 1 :=
      ⟨c.utf8Size + byteLength before - 1, by simp only [byteLength]; omega⟩
    have room : n + 1 = c.utf8Size + byteLength before := bytes.symm
    rw [List.cons_append, bytes, splitAtByte?, if_neg (by omega), room, Nat.add_sub_cancel_left, ih]
    rfl

theorem slice?_append (before middle after : List Char) :
    slice? (before ++ middle ++ after) (byteLength before) (byteLength (before ++ middle)) =
      some middle := by
  have order : byteLength before ≤ byteLength (before ++ middle) := by simp
  have allowed : (guard (byteLength before ≤ byteLength (before ++ middle)) : Option Unit) = some () :=
    if_pos order
  unfold slice?
  rw [allowed, List.append_assoc]
  simp [splitAtByte?_append]

/-- Of two beginnings of one text, the one of fewer bytes begins the other. -/
theorem prefix_of_byteLength_le {first second text : List Char} (begins : first <+: text)
    (other : second <+: text) (bytes : byteLength first ≤ byteLength second) : first <+: second := by
  rcases List.prefix_or_prefix_of_prefix begins other with shorter | ⟨more, rfl⟩
  · exact shorter
  · rw [byteLength_append] at bytes
    have none : more = [] := byteLength_eq_zero.mp (by omega)
    exact ⟨[], by simp [none]⟩

/-- The span holds `text`, between `before` and `after`. -/
structure Span.Cuts (span : Span) (source before text after : List Char) : Prop where
  whole : source = before ++ text ++ after
  start : span.start = byteLength before
  stop : span.stop = byteLength (before ++ text)

namespace Position

theorem after_append (place : Position) (before after : List Char) :
    place.after (before ++ after) = (place.after before).after after := by
  simp only [Position.after, List.foldl_append]

@[simp] theorem after_singleton (place : Position) (c : Char) : place.after [c] = place.next c := rfl

@[simp] theorem after_offset (place : Position) (text : List Char) :
    (place.after text).offset = place.offset + byteLength text := by
  induction text generalizing place with
  | nil => rfl
  | cons c text ih =>
    have first : place.after (c :: text) = (place.next c).after text := rfl
    rw [first, ih]
    simp only [next, byteLength, Nat.add_assoc]

theorem after_line (place : Position) (text : List Char) :
    (place.after text).line = place.line + text.count '\n' := by
  induction text generalizing place with
  | nil => rfl
  | cons c text ih =>
    have first : place.after (c :: text) = (place.next c).after text := rfl
    rw [first, ih]
    by_cases feed : c = '\n' <;> simp [next, feed]
    omega

/-- The place behind the first part of a document. A byte order mark at its start takes bytes but no
column. -/
def behind : List Char → Position
  | '\uFEFF' :: text => Position.after { offset := '\uFEFF'.utf8Size } text
  | text => Position.after {} text

@[simp] theorem behind_nil : behind [] = {} := rfl

theorem behind_of_head {text : List Char} (unmarked : text.head? ≠ some '\uFEFF') :
    behind text = Position.after {} text := by
  unfold behind
  split
  · exact absurd rfl unmarked
  · rfl

theorem behind_append {before : List Char} (nonempty : before ≠ []) (after : List Char) :
    behind (before ++ after) = (behind before).after after := by
  cases before with
  | nil => exact absurd rfl nonempty
  | cons c before =>
    by_cases mark : c = '\uFEFF'
    · subst c
      exact after_append _ before after
    · rw [behind_of_head (by simpa using mark), behind_of_head (by simpa using mark), after_append]

@[simp] theorem behind_offset (text : List Char) : (behind text).offset = byteLength text := by
  unfold behind
  split
  · rw [after_offset]
    rfl
  · rw [after_offset]
    exact Nat.zero_add _

theorem behind_line (text : List Char) : (behind text).line = 1 + text.count '\n' := by
  unfold behind
  split
  · rw [after_line, List.count_cons_of_ne (by decide)]
  · rw [after_line]

end Position

namespace Cursor

/-- The text behind the cursor, in its own order. -/
def read (cursor : Cursor) : List Char := cursor.behind.reverse

@[simp] theorem read_advanceBy (cursor : Cursor) (n : Nat) :
    (cursor.advanceBy n).read = cursor.read ++ cursor.ahead.take n := by
  simp [read, advanceBy]

@[simp] theorem ahead_advanceBy (cursor : Cursor) (n : Nat) :
    (cursor.advanceBy n).ahead = cursor.ahead.drop n := rfl

theorem place_advanceBy (cursor : Cursor) (n : Nat) :
    (cursor.advanceBy n).place = cursor.place.after (cursor.ahead.take n) := rfl

theorem ahead_advanceWhile (keep : Char → Bool) (cursor : Cursor) :
    (cursor.advanceWhile keep).ahead = cursor.ahead.dropWhile keep := by
  unfold advanceWhile
  rw [ahead_advanceBy]
  conv => lhs; arg 2; rw [← List.takeWhile_append_dropWhile (p := keep) (l := cursor.ahead)]
  exact List.drop_left

theorem read_advanceWhile (keep : Char → Bool) (cursor : Cursor) :
    (cursor.advanceWhile keep).read = cursor.read ++ cursor.ahead.takeWhile keep := by
  unfold advanceWhile
  rw [read_advanceBy]
  conv => lhs; arg 2; arg 2; rw [← List.takeWhile_append_dropWhile (p := keep) (l := cursor.ahead)]
  rw [List.take_left]

/-- The cursor is at the true place, and no byte order mark is left to step over. -/
structure Started (cursor : Cursor) : Prop where
  place : cursor.place = Position.behind cursor.read
  past : cursor.read = [] → cursor.ahead.head? ≠ some '\uFEFF'

theorem Started.advanceBy {cursor : Cursor} (started : cursor.Started) (n : Nat) :
    (cursor.advanceBy n).Started := by
  constructor
  · rw [place_advanceBy, read_advanceBy, started.place]
    by_cases fresh : cursor.read = []
    · have unmarked : (cursor.ahead.take n).head? ≠ some '\uFEFF' := by
        intro mark
        have first := List.head?_take (l := cursor.ahead) (i := n)
        rw [mark] at first
        split at first
        · cases first
        · exact started.past fresh first.symm
      rw [fresh, List.nil_append, Position.behind_of_head unmarked, Position.behind_nil]
    · exact (Position.behind_append fresh _).symm
  · intro fresh
    rw [read_advanceBy, List.append_eq_nil_iff, List.take_eq_nil_iff] at fresh
    obtain ⟨unread, zero | empty⟩ := fresh
    · subst n
      simpa using started.past unread
    · simp [empty]

theorem Started.after {cursor : Cursor} (started : cursor.Started) {text rest : List Char}
    (ahead : cursor.ahead = text ++ rest) :
    cursor.place.after text = Position.behind (cursor.read ++ text) := by
  have moved := (started.advanceBy text.length).place
  rwa [place_advanceBy, read_advanceBy, ahead, List.take_left] at moved

/-- Nothing is stepped over, or a byte order mark at the very start. -/
theorem skipByteOrderMark_cases (cursor : Cursor) :
    (cursor.skipByteOrderMark = cursor ∧
        (cursor.place.offset = 0 → cursor.ahead.head? ≠ some '\uFEFF')) ∨
      (cursor.place.offset = 0 ∧ cursor.ahead = '\uFEFF' :: cursor.skipByteOrderMark.ahead ∧
        cursor.skipByteOrderMark.read = cursor.read ++ ['\uFEFF'] ∧
        cursor.skipByteOrderMark.place = { cursor.place with offset := '\uFEFF'.utf8Size }) := by
  by_cases mark : cursor.atByteOrderMark = true
  · have stepped : cursor.skipByteOrderMark =
        { cursor.advance with place.line := cursor.place.line, place.column := cursor.place.column } :=
      if_pos mark
    simp only [atByteOrderMark, Bool.and_eq_true, decide_eq_true_eq] at mark
    obtain ⟨zero, first⟩ := mark
    obtain ⟨rest, ahead⟩ := List.head?_eq_some_iff.mp first
    refine Or.inr ⟨zero, ?_, ?_, ?_⟩
    · simp [stepped, advance, Cursor.advanceBy, ahead]
    · simp [stepped, advance, Cursor.advanceBy, read, ahead]
    · simp [stepped, advance, Cursor.advanceBy, ahead, Position.next, zero]
  · refine Or.inl ⟨if_neg mark, fun zero first => mark ?_⟩
    simp [atByteOrderMark, zero, first]

theorem skipByteOrderMark_eq {cursor : Cursor} (unmarked : cursor.ahead.head? ≠ some '\uFEFF') :
    cursor.skipByteOrderMark = cursor := by
  rcases cursor.skipByteOrderMark_cases with ⟨same, _⟩ | ⟨_, mark, _⟩
  · exact same
  · exact absurd (by rw [mark]; rfl) unmarked

theorem Started.skipByteOrderMark {cursor : Cursor} (started : cursor.Started) :
    cursor.skipByteOrderMark = cursor := by
  rcases cursor.skipByteOrderMark_cases with ⟨same, _⟩ | ⟨zero, mark, _⟩
  · exact same
  · rw [started.place, Position.behind_offset, byteLength_eq_zero] at zero
    exact absurd (by rw [mark]; rfl) (started.past zero)

theorem advanceWhile_of_head {keep : Char → Bool} {cursor : Cursor} {c : Char} {rest : List Char}
    (here : cursor.ahead = c :: rest) (stays : keep c = false) : cursor.advanceWhile keep = cursor := by
  unfold advanceWhile
  rw [here, List.takeWhile_cons_of_neg (by simp [stays])]
  rfl

theorem read_append_ahead_skipByteOrderMark (cursor : Cursor) :
    cursor.skipByteOrderMark.read ++ cursor.skipByteOrderMark.ahead = cursor.read ++ cursor.ahead := by
  rcases cursor.skipByteOrderMark_cases with ⟨same, _⟩ | ⟨_, ahead, read, _⟩
  · rw [same]
  · rw [read, List.append_assoc, List.singleton_append, ← ahead]

/-- A step over the byte order mark keeps the cursor in its place, and none is left behind it. -/
theorem started_skipByteOrderMark {cursor : Cursor} (place : cursor.place = Position.behind cursor.read) :
    cursor.skipByteOrderMark.Started := by
  rcases cursor.skipByteOrderMark_cases with ⟨same, unmarked⟩ | ⟨zero, _, read, stepped⟩
  · rw [same]
    refine ⟨place, fun fresh => unmarked ?_⟩
    rw [place, fresh]
    rfl
  · rw [place, Position.behind_offset, byteLength_eq_zero] at zero
    constructor
    · rw [stepped, place, read, zero]
      rfl
    · simp [read]

end Cursor

end DataLexer
