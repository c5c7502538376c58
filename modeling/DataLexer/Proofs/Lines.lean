import Mathlib.Data.List.DropRight
import Mathlib.Data.List.Induction
import DataLexer.Proofs.Place
import DataLexer.SourceFile

namespace DataLexer

/-- What stands behind the last line feed of a text. -/
def lastLine (text : List Char) : List Char := text.rtakeWhile (· != '\n')

/-- What stands before the first line feed of a text. -/
def firstLine (text : List Char) : List Char := text.takeWhile (· != '\n')

/-- Lines put together again, each ended by a line feed. -/
def endLines (lines : List (List Char)) : List Char := lines.flatMap (· ++ ['\n'])

@[simp] theorem lastLine_nil : lastLine [] = [] := rfl

@[simp] theorem lastLine_append_feed (text : List Char) : lastLine (text ++ ['\n']) = [] :=
  List.rtakeWhile_concat_neg _ _ _ (by simp)

theorem lastLine_append_singleton (text : List Char) {c : Char} (plain : c ≠ '\n') :
    lastLine (text ++ [c]) = lastLine text ++ [c] :=
  List.rtakeWhile_concat_pos _ _ _ (by simpa using plain)

theorem lastLine_suffix (text : List Char) : lastLine text <:+ text :=
  List.rtakeWhile_suffix _ _

theorem feed_not_mem_lastLine (text : List Char) : '\n' ∉ lastLine text := by
  intro feed
  have kept := List.mem_rtakeWhile_imp feed
  simp at kept

theorem lastLine_append (text : List Char) {more : List Char} (plain : '\n' ∉ more) :
    lastLine (text ++ more) = lastLine text ++ more := by
  induction more using List.reverseRecOn with
  | nil => simp
  | append_singleton more c ih =>
    simp only [List.mem_append, List.mem_singleton, not_or] at plain
    rw [← List.append_assoc, lastLine_append_singleton _ (Ne.symm plain.2), ih plain.1, List.append_assoc]

theorem lastLine_eq_self {text : List Char} (plain : '\n' ∉ text) : lastLine text = text :=
  lastLine_append [] plain

/-- What stands before a line feed has no part in the last line. -/
theorem lastLine_append_of_feed (text : List Char) {more : List Char} (feed : '\n' ∈ more) :
    lastLine (text ++ more) = lastLine more := by
  induction more using List.reverseRecOn with
  | nil => cases feed
  | append_singleton more c ih =>
    rw [← List.append_assoc]
    by_cases last : c = '\n'
    · rw [last, lastLine_append_feed, lastLine_append_feed]
    · have inside : '\n' ∈ more := by simpa [Ne.symm last] using feed
      rw [lastLine_append_singleton _ last, lastLine_append_singleton _ last, ih inside]

theorem feed_not_mem_firstLine (text : List Char) : '\n' ∉ firstLine text := by
  intro feed
  have kept := List.mem_takeWhile_imp feed
  simp at kept

theorem firstLine_append {text : List Char} (plain : '\n' ∉ text) (rest : List Char) :
    firstLine (text ++ rest) = text ++ firstLine rest :=
  List.takeWhile_append_of_pos fun c inside => by simpa using ne_of_mem_of_not_mem inside plain

theorem firstLine_eq_self {text : List Char} (plain : '\n' ∉ text) : firstLine text = text := by
  simpa [firstLine] using firstLine_append plain []

theorem head?_of_firstLine {text : List Char} {c : Char} (first : (firstLine text).head? = some c) :
    text.head? = some c := by
  rw [firstLine, List.head?_takeWhile, Option.filter_eq_some_iff] at first
  exact first.1

theorem endLines_append (lines more : List (List Char)) :
    endLines (lines ++ more) = endLines lines ++ endLines more :=
  List.flatMap_append

/-- Every text is made of whole lines and of the line under way. -/
theorem exists_endLines (text : List Char) :
    ∃ lines, endLines lines ++ lastLine text = text ∧ lines.length = text.count '\n' ∧
      ∀ line ∈ lines, '\n' ∉ line := by
  induction text using List.reverseRecOn with
  | nil => exact ⟨[], rfl, rfl, by simp⟩
  | append_singleton text c ih =>
    obtain ⟨lines, whole, count, plain⟩ := ih
    by_cases feed : c = '\n'
    · subst c
      refine ⟨lines ++ [lastLine text], ?_, by simp [count], ?_⟩
      · rw [endLines_append, lastLine_append_feed, List.append_nil]
        conv => rhs; rw [← whole]
        simp [endLines]
      · intro line member
        rcases List.mem_append.mp member with earlier | last
        · exact plain line earlier
        · rw [List.mem_singleton.mp last]
          exact feed_not_mem_lastLine text
    · refine ⟨lines, ?_, by simp [count, feed], plain⟩
      rw [lastLine_append_singleton text feed, ← List.append_assoc, whole]

theorem splitLines_eq_cons (text : List Char) :
    ∃ later, splitLines text = firstLine text :: later := by
  induction text with
  | nil => exact ⟨[], rfl⟩
  | cons c text ih =>
    obtain ⟨later, split⟩ := ih
    by_cases feed : c = '\n'
    · exact ⟨splitLines text, by simp [splitLines, firstLine, feed]⟩
    · refine ⟨later, ?_⟩
      unfold splitLines
      rw [if_neg feed, split]
      simp [firstLine, feed]

theorem splitLines_append_of_plain {line : List Char} (plain : '\n' ∉ line) {text first : List Char}
    {later : List (List Char)} (split : splitLines text = first :: later) :
    splitLines (line ++ text) = (line ++ first) :: later := by
  induction line with
  | nil => exact split
  | cons c line ih =>
    obtain ⟨other, plain⟩ := not_or.mp (mt List.mem_cons.mpr plain)
    rw [List.cons_append, splitLines, if_neg (Ne.symm other), ih plain]
    rfl

theorem splitLines_of_plain {line : List Char} (plain : '\n' ∉ line) : splitLines line = [line] := by
  have nothing : splitLines [] = [[]] := rfl
  simpa using splitLines_append_of_plain plain nothing

theorem splitLines_endLines {lines : List (List Char)} (plain : ∀ line ∈ lines, '\n' ∉ line)
    (text : List Char) : splitLines (endLines lines ++ text) = lines ++ splitLines text := by
  induction lines with
  | nil => rfl
  | cons line lines ih =>
    obtain ⟨first, others⟩ := List.forall_mem_cons.mp plain
    have feed : splitLines ('\n' :: (endLines lines ++ text)) = [] :: (lines ++ splitLines text) := by
      rw [splitLines, if_pos rfl, ih others]
    have split := splitLines_append_of_plain first feed
    simpa [endLines] using split

/-- The lines of a text that is cut in two. -/
theorem splitLines_append (before after : List Char) :
    ∃ earlier later, splitLines (before ++ after) =
        earlier ++ (lastLine before ++ firstLine after) :: later ∧
      earlier.length = before.count '\n' ∧ endLines earlier ++ lastLine before = before := by
  obtain ⟨earlier, whole, count, plain⟩ := exists_endLines before
  obtain ⟨later, split⟩ := splitLines_eq_cons after
  refine ⟨earlier, later, ?_, count, whole⟩
  have line := splitLines_append_of_plain (feed_not_mem_lastLine before) split
  conv => lhs; rw [← whole, List.append_assoc, splitLines_endLines plain, line]

theorem trimReturns_append_return (line : List Char) :
    trimReturns (line ++ ['\r']) = trimReturns line :=
  List.rdropWhile_concat_pos _ _ _ (by simp)

theorem trimReturns_append_singleton (line : List Char) {c : Char} (solid : c ≠ '\r') :
    trimReturns (line ++ [c]) = line ++ [c] :=
  List.rdropWhile_concat_neg _ _ _ (by simpa using solid)

theorem trimReturns_eq_self {line : List Char} (unreturned : line.getLast? ≠ some '\r') :
    trimReturns line = line := by
  rcases List.eq_nil_or_concat line with rfl | ⟨line, c, rfl⟩
  · rfl
  · rw [List.concat_eq_append] at unreturned ⊢
    exact trimReturns_append_singleton line (by simpa using unreturned)

theorem trimReturns_append_cons (line : List Char) {c : Char} (solid : c ≠ '\r') (rest : List Char) :
    trimReturns (line ++ c :: rest) = line ++ c :: trimReturns rest := by
  induction rest using List.reverseRecOn with
  | nil => exact trimReturns_append_singleton line solid
  | append_singleton rest d ih =>
    have whole : line ++ c :: (rest ++ [d]) = line ++ c :: rest ++ [d] := by simp
    by_cases returned : d = '\r'
    · rw [whole, returned, trimReturns_append_return, trimReturns_append_return, ih]
    · rw [whole, trimReturns_append_singleton _ returned, trimReturns_append_singleton _ returned]
      simp

namespace SourceFile

/-- The byte that line `n` starts at. -/
def lineStart (file : SourceFile) (n : Nat) : Nat := byteLength (endLines (file.lines.take (n - 1)))

/-- The byte `offset` lies on line `n`, or is the line feed or the end of the text behind it. -/
def LiesOn (file : SourceFile) (n offset : Nat) : Prop :=
  0 < n ∧ ∃ line, file.lines[n - 1]? = some line ∧ file.lineStart n ≤ offset ∧
    offset ≤ file.lineStart n + byteLength line

variable {file : SourceFile} {before after : List Char}

theorem lines_of_append (text : file.text.toList = before ++ after) :
    file.lines[before.count '\n']? = some (lastLine before ++ firstLine after) := by
  obtain ⟨earlier, later, split, count, _⟩ := splitLines_append before after
  rw [lines, text, split, ← count]
  simp

theorem line?_of_append (text : file.text.toList = before ++ after) :
    file.line? (1 + before.count '\n') =
      some (String.ofList (trimReturns (lastLine before ++ firstLine after))) := by
  rw [line?, if_neg (by omega), Nat.add_sub_cancel_left, lines_of_append text]
  rfl

theorem lineStart_of_append (text : file.text.toList = before ++ after) :
    file.lineStart (1 + before.count '\n') + byteLength (lastLine before) = byteLength before := by
  obtain ⟨earlier, later, split, count, whole⟩ := splitLines_append before after
  have taken : file.lines.take (1 + before.count '\n' - 1) = earlier := by
    rw [lines, text, split, Nat.add_sub_cancel_left, ← count, List.take_left]
  rw [lineStart, taken, ← byteLength_append, whole]

theorem liesOn_of_append (text : file.text.toList = before ++ after) :
    file.LiesOn (1 + before.count '\n') (byteLength before) := by
  have start := lineStart_of_append text
  refine ⟨by omega, lastLine before ++ firstLine after, ?_, by omega, ?_⟩
  · rw [Nat.add_sub_cancel_left]
    exact lines_of_append text
  · rw [byteLength_append]
    omega

end SourceFile

end DataLexer
