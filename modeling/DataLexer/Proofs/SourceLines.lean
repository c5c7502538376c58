import DataLexer.Proofs.Lines

namespace DataLexer

/-- A line without the one carriage return that a line feed behind it takes for its own. -/
def withoutReturn (line : List Char) : List Char :=
  if line.getLast? = some '\r' then line.dropLast else line

/-- Line `n` without the line feed, or the carriage return and line feed, that ends it. Nothing ends the
last line. -/
def SourceFile.lineBody? (file : SourceFile) (n : Nat) : Option String :=
  if n = 0 then none
  else file.lines[n - 1]?.map fun line =>
    String.ofList (if n < file.lineCount then withoutReturn line else line)

/-- How the lines of a file are looked up: every line is found and shown without the carriage returns at
its end, however many they are. -/
structure LineLookup (file : SourceFile) : Prop where
  count : file.lineCount = 1 + file.text.toList.count '\n'
  pieces : file.lines = file.text.toList.splitOn '\n'
  found : ∀ n, (file.line? n).isSome = true ↔ 1 ≤ n ∧ n ≤ file.lineCount
  shown : ∀ n line, file.lines[n]? = some line → ∃ text returns, file.line? (n + 1) = some text ∧
    line = text.toList ++ List.replicate returns '\r' ∧ text.toList.getLast? ≠ some '\r'
  inner : ∀ n line, file.lines[n]? = some line → n + 1 < file.lineCount →
    (file.line? (n + 1) = file.lineBody? (n + 1) ↔ ¬ ['\r', '\r'] <:+ line)
  last : ∀ n line, file.lines[n]? = some line → n + 1 = file.lineCount →
    (file.line? (n + 1) = file.lineBody? (n + 1) ↔ ¬ ['\r'] <:+ line)
  rebuilt : ∃ returns : Nat → Nat, file.text.toList =
    ['\n'].intercalate ((List.range file.lineCount).map fun n =>
      ((file.line? (n + 1)).getD "").toList ++ List.replicate (returns n) '\r')

theorem splitLines_eq_splitOn (text : List Char) : splitLines text = text.splitOn '\n' := by
  induction text with
  | nil => rfl
  | cons c text ih =>
    obtain ⟨later, split⟩ := splitLines_eq_cons text
    rw [List.splitOn, List.splitOnP_cons_eq_if_modifyHead, ← List.splitOn, ← ih, splitLines, split]
    by_cases feed : c = '\n' <;> simp [feed]

theorem length_splitLines (text : List Char) : (splitLines text).length = 1 + text.count '\n' := by
  induction text with
  | nil => rfl
  | cons c text ih =>
    obtain ⟨later, split⟩ := splitLines_eq_cons text
    rw [split, List.length_cons] at ih
    by_cases feed : c = '\n' <;> simp [splitLines, split, feed] <;> omega

theorem trimReturns_append_replicate (line : List Char) :
    ∃ returns, line = trimReturns line ++ List.replicate returns '\r' := by
  have all : ∀ c ∈ line.rtakeWhile (· = '\r'), c = '\r' := by
    intro c inside
    simpa using List.mem_rtakeWhile_imp inside
  refine ⟨(line.rtakeWhile (· = '\r')).length, ?_⟩
  rw [← List.eq_replicate_iff.mpr ⟨rfl, all⟩]
  exact List.rdropWhile_append_rtakeWhile.symm

theorem getLast?_trimReturns (line : List Char) : (trimReturns line).getLast? ≠ some '\r' := by
  induction line using List.reverseRecOn with
  | nil => simp [trimReturns]
  | append_singleton line c ih =>
    by_cases returned : c = '\r'
    · rwa [returned, trimReturns_append_return]
    · rw [trimReturns_append_singleton line returned]
      simpa using returned

theorem trimReturns_eq_self_iff {line : List Char} : trimReturns line = line ↔ ¬ ['\r'] <:+ line := by
  constructor
  · rintro same ⟨lead, returned⟩
    apply getLast?_trimReturns line
    rw [same, ← returned, List.getLast?_concat]
  · intro unreturned
    refine trimReturns_eq_self fun last => unreturned ?_
    obtain ⟨lead, rfl⟩ := List.getLast?_eq_some_iff.mp last
    exact List.suffix_append lead ['\r']

/-- All carriage returns are the one that is due exactly when there are no two of them. -/
theorem trimReturns_eq_withoutReturn_iff {line : List Char} :
    trimReturns line = withoutReturn line ↔ ¬ ['\r', '\r'] <:+ line := by
  induction line using List.reverseRecOn with
  | nil => simp [trimReturns, withoutReturn]
  | append_singleton line c =>
    have two : ['\r', '\r'] <:+ line ++ [c] ↔ c = '\r' ∧ ['\r'] <:+ line := by
      rw [← List.reverse_prefix]
      simp [List.cons_prefix_cons, ← List.reverse_prefix, eq_comm]
    rw [two]
    by_cases returned : c = '\r'
    · subst c
      have bare : withoutReturn (line ++ ['\r']) = line := by simp [withoutReturn]
      rw [trimReturns_append_return, bare, trimReturns_eq_self_iff]
      simp
    · have bare : withoutReturn (line ++ [c]) = line ++ [c] := by simp [withoutReturn, returned]
      rw [trimReturns_append_singleton line returned, bare]
      simp [returned]

namespace SourceFile

variable {file : SourceFile}

theorem line?_succ (file : SourceFile) (n : Nat) :
    file.line? (n + 1) = file.lines[n]?.map fun line => String.ofList (trimReturns line) := by
  rw [line?, if_neg (Nat.succ_ne_zero n), Nat.add_sub_cancel]

theorem lineBody?_succ (file : SourceFile) (n : Nat) :
    file.lineBody? (n + 1) = file.lines[n]?.map fun line =>
      String.ofList (if n + 1 < file.lineCount then withoutReturn line else line) := by
  rw [lineBody?, if_neg (Nat.succ_ne_zero n), Nat.add_sub_cancel]

theorem line?_isSome_iff {n : Nat} : (file.line? n).isSome = true ↔ 1 ≤ n ∧ n ≤ file.lineCount := by
  cases n with
  | zero => simp [line?]
  | succ n =>
    rw [line?_succ, Option.isSome_map, Option.isSome_iff_ne_none, Ne, List.getElem?_eq_none_iff, lineCount]
    omega

theorem exists_returns (file : SourceFile) (n : Nat) : ∃ returns, ∀ line, file.lines[n]? = some line →
    ((file.line? (n + 1)).getD "").toList ++ List.replicate returns '\r' = line := by
  cases at' : file.lines[n]? with
  | none => exact ⟨0, by simp⟩
  | some line =>
    obtain ⟨returns, whole⟩ := trimReturns_append_replicate line
    refine ⟨returns, ?_⟩
    rintro _ ⟨⟩
    rw [line?_succ, at']
    simpa using whole.symm

/-- Together with its carriage returns and line feeds, what is shown of the lines is the text. -/
theorem exists_rebuilt (file : SourceFile) : ∃ returns : Nat → Nat, file.text.toList =
    ['\n'].intercalate ((List.range file.lineCount).map fun n =>
      ((file.line? (n + 1)).getD "").toList ++ List.replicate (returns n) '\r') := by
  choose returns whole using file.exists_returns
  have lines : ((List.range file.lineCount).map fun n =>
      ((file.line? (n + 1)).getD "").toList ++ List.replicate (returns n) '\r') = file.lines := by
    refine List.ext_getElem (by simp [lineCount]) fun n _ inside => ?_
    simpa using whole n file.lines[n] (List.getElem?_eq_getElem inside)
  refine ⟨returns, ?_⟩
  rw [lines, SourceFile.lines, splitLines_eq_splitOn, List.intercalate_splitOn]

end SourceFile

/-- Looking lines up undoes splitting a text into lines, but for carriage returns beyond those that the
line feeds take for their own. -/
theorem lookup_lines (file : SourceFile) : LineLookup file where
  count := length_splitLines _
  pieces := splitLines_eq_splitOn _
  found := fun _ => SourceFile.line?_isSome_iff
  shown := by
    intro n line at'
    obtain ⟨returns, whole⟩ := trimReturns_append_replicate line
    refine ⟨String.ofList (trimReturns line), returns, by rw [file.line?_succ, at']; rfl, ?_, ?_⟩
    · rwa [String.toList_ofList]
    · rw [String.toList_ofList]
      exact getLast?_trimReturns line
  inner := by
    intro n line at' more
    rw [file.line?_succ, file.lineBody?_succ, at', ← trimReturns_eq_withoutReturn_iff]
    simp [more, String.ofList_inj]
  last := by
    intro n line at' ends
    rw [file.line?_succ, file.lineBody?_succ, at', ← trimReturns_eq_self_iff]
    simp [ends, String.ofList_inj]
  rebuilt := file.exists_rebuilt

/-- A carriage return with no line feed behind it, and the first of two before a line feed, are lost. -/
theorem lookup_loses_returns :
    (⟨"a.dan", "a\r"⟩ : SourceFile).line? 1 ≠ (⟨"a.dan", "a\r"⟩ : SourceFile).lineBody? 1 ∧
      (⟨"a.dan", "a\r\r\n"⟩ : SourceFile).line? 1 ≠ (⟨"a.dan", "a\r\r\n"⟩ : SourceFile).lineBody? 1 := by
  decide

end DataLexer
