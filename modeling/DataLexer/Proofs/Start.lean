import DataLexer.Proofs.Boundary
import DataLexer.Proofs.Run

namespace DataLexer

namespace Lexer

theorem drain_congr {lexer other : Lexer} (same : lexer.next = other.next) : lexer.drain = other.drain := by
  match call : lexer.next with
  | (.error error, after) => rw [drain_of_error call, drain_of_error (same.symm.trans call)]
  | (.ok token, after) => rw [drain_of_token call, drain_of_token (same.symm.trans call)]

/-- The lexer at the start of a text, past its byte order mark. -/
def atStart (text : String) : Lexer :=
  { ofText text with cursor := (Cursor.ofText text.toList).skipByteOrderMark }

theorem started_atStart (text : String) : (atStart text).cursor.Started :=
  Cursor.started_skipByteOrderMark rfl

theorem cursor_atStart (text : String) :
    ((atStart text).cursor.read = [] ∧ (atStart text).cursor.ahead = text.toList ∧
        text.toList.head? ≠ some '\uFEFF') ∨
      (atStart text).cursor.read = ['\uFEFF'] ∧ text.toList = '\uFEFF' :: (atStart text).cursor.ahead := by
  rcases (Cursor.ofText text.toList).skipByteOrderMark_cases with ⟨same, unmarked⟩ | ⟨_, ahead, read, _⟩
  · simp only [atStart, same]
    exact Or.inl ⟨rfl, rfl, unmarked rfl⟩
  · exact Or.inr ⟨read, ahead⟩

theorem next_atStart (text : String) : (atStart text).next = (ofText text).next := by
  have again : (atStart text).cursor.skipByteOrderMark = (ofText text).cursor.skipByteOrderMark :=
    (started_atStart text).skipByteOrderMark
  have settled : (atStart text).settled = (ofText text).settled := by
    unfold Lexer.settled
    rw [again]
    rfl
  rw [next_of_running rfl, next_of_running rfl, settled, again]
  rfl

theorem drain_atStart (text : String) : (atStart text).drain = tokenize text :=
  drain_congr (next_atStart text)

variable {lexer after : Lexer}

theorem gap_of_started (started : lexer.cursor.Started) :
    lexer.gap = lexer.cursor.ahead.takeWhile isBlank := by
  unfold gap
  rw [started.skipByteOrderMark]

theorem ahead_settled_of_started (started : lexer.cursor.Started) :
    lexer.settled.cursor.ahead = lexer.cursor.ahead.dropWhile isBlank := by
  unfold settled
  rw [Cursor.ahead_advanceWhile, started.skipByteOrderMark]

theorem gap_append_of_started (started : lexer.cursor.Started) :
    lexer.gap ++ lexer.settled.cursor.ahead = lexer.cursor.ahead := by
  rw [gap_append_settled, started.skipByteOrderMark]

/-- A colon is next on the line when it is next at all and no line feed stands before it. -/
theorem colonNext_iff (started : lexer.cursor.Started) :
    ColonNext lexer.cursor.ahead ↔ lexer.settled.cursor.ahead.head? = some ':' ∧ '\n' ∉ lexer.gap := by
  rw [← gap_append_of_started started]
  by_cases feed : '\n' ∈ lexer.gap
  · have space (c : Char) (inside : c ∈ lexer.gap) : isBlank c = true := isBlank_of_mem_gap inside
    exact iff_of_false (not_colonNext_of_feed space feed _) fun found => found.2 feed
  · have inline : ∀ c ∈ lexer.gap, isInlineBlank c = true := by
      intro c inside
      simp [isInlineBlank, ne_of_mem_of_not_mem inside feed, isBlank_of_mem_gap inside]
    rw [colonNext_append inline, colonNext_of_solid fun _ => lexer.solid_settled]
    exact (and_iff_left feed).symm

theorem read_settled_of_started (started : lexer.cursor.Started) :
    lexer.settled.cursor.read = lexer.cursor.read ++ lexer.gap := by
  rw [read_settled, started.skipByteOrderMark]

theorem started_settled (started : lexer.cursor.Started) : lexer.settled.cursor.Started := by
  unfold settled
  rw [started.skipByteOrderMark]
  exact started.advanceBy _

theorem Passes.started {form : Form} {c : Char} {tail : List Char} {token : Token}
    (passes : lexer.Passes form c tail token after) (started : lexer.cursor.Started) :
    after.cursor.Started := by
  rw [passes.cursor]
  exact (started_settled started).advanceBy _

theorem Step.started {token : Token} (step : Step lexer (.ok token) after)
    (started : lexer.cursor.Started) : after.cursor.Started := by
  cases step with
  | done => exact started
  | last | rowBreak => exact started_settled started
  | lexeme _ _ _ passes => exact passes.started started

end Lexer

end DataLexer
