import DataLexer.Diagnostic.Lexical
import DataLexer.Proofs.Carets
import DataLexer.Proofs.Gutters

namespace DataLexer

/-- The characters that end a line, by one convention or another. -/
def lineBreaks : List Char := ['\n', '\x0b', '\x0c', '\r', '\x85', '\u2028', '\u2029']

def IsUnbroken (text : String) : Prop := ∀ c ∈ text.toList, c ∉ lineBreaks

instance (text : String) : Decidable (IsUnbroken text) :=
  decidable_of_iff (text.toList.all fun c => !lineBreaks.contains c) (by simp [IsUnbroken])

namespace LexError

/-- The title and the place. -/
def headingRows (error : LexError) (name : String) : List String :=
  [s!"error[{error.code.name}]: {error.title}",
    s!"  --> {name}:{error.span.line}:{error.span.column}"]

/-- The rows of a report: the title, the place, an empty gutter, the line behind its number, the carets
below it, the notes and the helps. -/
def reportRows (error : LexError) (name line : String) (carets : Nat) : List String :=
  let width := gutterWidth error.span.line
  error.headingRows name ++
    [spaces width ++ " |",
      alignRight width (toString error.span.line) ++ " | " ++ line,
      spaces width ++ " | " ++ spaces (error.span.column - 1) ++ repeated carets '^'] ++
    error.notes.map (Diagnostic.remarkLine width "note") ++
    error.helps.map (Diagnostic.remarkLine width "help")

/-- The report on the document shows the line and as many carets, row by row, and no text of the error
breaks. -/
structure Reports (error : LexError) (name source line : String) (carets : Nat) : Prop where
  found : SourceFile.line? ⟨name, source⟩ error.span.line = some line
  pointed : 1 ≤ carets
  whole : (error.render name source false).toList =
    endLines ((error.reportRows name line carets).map String.toList)
  rows : ∀ row ∈ error.reportRows name line carets, '\n' ∉ row.toList
  count : (error.reportRows name line carets).length = 5 + error.notes.length + error.helps.length
  unbroken : ∀ text ∈ [error.message, error.title] ++ error.notes ++ error.helps, IsUnbroken text

end LexError

@[simp] theorem isUnbroken_append {before after : String} :
    IsUnbroken (before ++ after) ↔ IsUnbroken before ∧ IsUnbroken after := by
  simp [IsUnbroken, or_imp, forall_and]

theorem IsUnbroken.no_feed {text : String} (unbroken : IsUnbroken text) : '\n' ∉ text.toList :=
  fun feed => absurd (unbroken '\n' feed) (by decide)

theorem not_mem_lineBreaks_of_solid {c : Char} (solid : isBlank c = false) : c ∉ lineBreaks := by
  intro breaks
  have blank : lineBreaks.all isBlank = true := by decide
  rw [List.all_eq_true.mp blank c breaks] at solid
  cases solid

theorem isUnbroken_char {c : Char} (solid : isBlank c = false) : IsUnbroken (toString c) := by
  intro d member
  rw [show toString c = String.singleton c from rfl, String.toList_singleton, List.mem_singleton] at member
  rw [member]
  exact not_mem_lineBreaks_of_solid solid

@[simp] theorem isUnbroken_toString (n : Nat) : IsUnbroken (toString n) := by
  intro c member breaks
  have noDigit : lineBreaks.any Char.isDigit = false := by decide
  exact List.any_eq_false.mp noDigit c breaks (isDigit_of_mem_toString member)

@[simp] theorem isUnbroken_place (span : Span) : IsUnbroken (toString span.place) := by
  have colon : IsUnbroken (toString ":") := by decide
  exact isUnbroken_append.mpr
    ⟨isUnbroken_append.mpr ⟨isUnbroken_toString _, colon⟩, isUnbroken_toString _⟩

/-- The digits of a number are those below its base. -/
theorem exists_digit_of_mem_toDigits {base n : Nat} {c : Char} (base_gt : 1 < base)
    (member : c ∈ Nat.toDigits base n) : ∃ digit < base, c = digit.digitChar := by
  induction n using Nat.strongRecOn with
  | ind n ih =>
    rw [Nat.toDigits_eq_if base_gt] at member
    split at member
    · exact ⟨n, ‹_›, List.mem_singleton.mp member⟩
    · rcases List.mem_append.mp member with earlier | last
      · exact ih (n / base) (Nat.div_lt_self (by omega) base_gt) earlier
      · exact ⟨n % base, Nat.mod_lt n (by omega), List.mem_singleton.mp last⟩

theorem not_mem_lineBreaks_of_printable {c : Char} (printable : isPrintable c = true) : c ∉ lineBreaks := by
  intro breaks
  have escaped : lineBreaks.any isPrintable = false := by decide +kernel
  exact List.any_eq_false.mp escaped c breaks printable

theorem escapeLetter?_unbroken {c letter : Char} (escape : escapeLetter? c = some letter) :
    letter ∉ lineBreaks := by
  unfold escapeLetter? at escape
  split at escape <;> cases escape <;> decide

theorem escapeCodePoint_unbroken (c : Char) : ∀ d ∈ escapeCodePoint c, d ∉ lineBreaks := by
  intro d member
  have digits : ∀ digit < 16, digit.digitChar ∉ lineBreaks := by decide
  rw [escapeCodePoint, List.mem_append, List.mem_append, List.mem_singleton] at member
  rcases member with (inside | digit) | closing
  · simp only [List.mem_cons, List.not_mem_nil, or_false] at inside
    rcases inside with rfl | rfl | rfl <;> decide
  · obtain ⟨value, small, rfl⟩ := exists_digit_of_mem_toDigits (by decide) digit
    exact digits value small
  · rw [closing]
    decide

/-- Every line break is escaped between quotes. -/
theorem escapeIn_unbroken {quote : Char} (plain : quote ∉ lineBreaks) (c : Char) :
    ∀ d ∈ escapeIn quote c, d ∉ lineBreaks := by
  have slash : '\\' ∉ lineBreaks := by decide
  unfold escapeIn
  split
  case isTrue same => simp [slash, same, plain]
  case isFalse =>
    split
    case h_1 letter escape => simp [slash, escapeLetter?_unbroken escape]
    case h_2 =>
      split
      case isTrue printable => simpa using not_mem_lineBreaks_of_printable printable
      case isFalse => exact escapeCodePoint_unbroken c

theorem isUnbroken_quotedChar (c : Char) : IsUnbroken (toString (quotedChar c)) := by
  have quoted : (toString (quotedChar c)).toList = '\'' :: (escapeIn '\'' c ++ ['\'']) := by
    change (quotedChar c).toList = _
    simp [quotedChar, quotedIn]
  have quote : '\'' ∉ lineBreaks := by decide
  intro d member
  rw [quoted, List.mem_cons, List.mem_append, List.mem_singleton] at member
  rcases member with rfl | inside | rfl
  · exact quote
  · exact escapeIn_unbroken quote c d inside
  · exact quote

@[simp] theorem isUnbroken_openChar (delimiter : Delimiter) : IsUnbroken (toString delimiter.openChar) := by
  cases delimiter <;> decide

@[simp] theorem isUnbroken_closeChar (delimiter : Delimiter) : IsUnbroken (toString delimiter.closeChar) := by
  cases delimiter <;> decide

namespace LexError

variable {error : LexError} {text rest : List Char}

theorem isUnbroken_title (marks : error.Marks text rest) (faulty : Faulty text rest) :
    IsUnbroken error.title := by
  unfold title
  split
  -- A bracket is shown as it is, any other character in quotes.
  case h_2 c span opener =>
    obtain rfl := marks
    have closer : IsUnbroken (toString c) := isUnbroken_char (faulty.solid rfl)
    simp only [isUnbroken_append, closer]
    decide +kernel
  case h_4 c span =>
    simp only [isUnbroken_append, isUnbroken_quotedChar]
    decide +kernel
  all_goals decide +kernel

theorem isUnbroken_message (marks : error.Marks text rest) (faulty : Faulty text rest) :
    IsUnbroken error.message := by
  unfold message
  split
  case h_2 c span | h_3 c span opener =>
    obtain rfl := marks
    have closer : IsUnbroken (toString c) := isUnbroken_char (faulty.solid rfl)
    simp only [isUnbroken_append, closer, isUnbroken_openChar, isUnbroken_place]
    decide +kernel
  case h_6 c span =>
    simp only [isUnbroken_append, isUnbroken_quotedChar, isUnbroken_place]
    decide +kernel
  all_goals
    simp only [isUnbroken_append, isUnbroken_openChar, isUnbroken_place]
    decide +kernel

theorem isUnbroken_of_mem_notes (error : LexError) : ∀ note ∈ error.notes, IsUnbroken note := by
  intro note member
  unfold notes at member
  split at member
  case h_1 delimiter span =>
    rw [List.mem_singleton.mp member]
    simp only [isUnbroken_append, isUnbroken_openChar, isUnbroken_closeChar, isUnbroken_place]
    decide +kernel
  case h_2 =>
    rw [List.mem_singleton.mp member]
    decide +kernel
  case h_3 delimiter span =>
    rw [List.mem_singleton.mp member]
    simp only [isUnbroken_append, isUnbroken_openChar, isUnbroken_place]
    decide +kernel
  case h_4 => cases member

theorem isUnbroken_of_mem_helps (error : LexError) : ∀ help ∈ error.helps, IsUnbroken help := by
  intro help member
  unfold helps at member
  split at member
  case h_2 opener =>
    rw [List.mem_singleton.mp member]
    simp only [isUnbroken_append, isUnbroken_closeChar]
    decide +kernel
  case h_3 => cases member
  all_goals
    rw [List.mem_singleton.mp member]
    decide +kernel

/-- The first two rows of a report. -/
theorem toList_heading (place : 0 < error.span.line) (name source : String) :
    (error.diagnostic.heading ⟨name, source⟩ false).toList =
      endLines ((error.headingRows name).map String.toList) := by
  have shown : error.diagnostic.span.hasPlace = true := decide_eq_true place
  rw [Diagnostic.heading, if_pos shown]
  have itself (text : String) : toString text = text := rfl
  simp [Diagnostic.title, Diagnostic.header, diagnostic, Span.place, headingRows, endLines, itself]

/-- The rows below them, in front of the remarks. -/
theorem lines_eq {name source : String} {excerpt : Excerpt}
    (made : Excerpt.ofSpan? ⟨name, source⟩ error.span = some excerpt) :
    error.diagnostic.lines ⟨name, source⟩ =
      [spaces (gutterWidth error.span.line) ++ " |", excerpt.numberedLine, excerpt.caretLine] ++
        error.notes.map (Diagnostic.remarkLine (gutterWidth error.span.line) "note") ++
        error.helps.map (Diagnostic.remarkLine (gutterWidth error.span.line) "help") := by
  have shown : error.diagnostic.shown ⟨name, source⟩ = [excerpt] := by
    have bare : error.diagnostic.excerpts.isEmpty = true := rfl
    rw [Diagnostic.shown, if_pos bare]
    exact congrArg Option.toList made
  have width : error.diagnostic.gutter ⟨name, source⟩ = gutterWidth error.span.line := by
    rw [Diagnostic.gutter, shown, ← (Excerpt.ofSpan?_inv made).2.2.1]
    simp only [List.map_cons, List.map_nil, List.foldl_cons, List.foldl_nil, Excerpt.gutter, gutterWidth]
    omega
  rw [Diagnostic.lines, shown, width]
  rfl

theorem plainBody (error : LexError) : error.diagnostic.PlainBody where
  excerpts := nofun
  notes := fun note given => (error.isUnbroken_of_mem_notes note given).no_feed
  helps := fun help given => (error.isUnbroken_of_mem_helps help given).no_feed

/-- The rows of a report are those of the rendered diagnostic. -/
theorem reportRows_eq {name source : String} {excerpt : Excerpt}
    (made : Excerpt.ofSpan? ⟨name, source⟩ error.span = some excerpt) :
    error.reportRows name excerpt.line (max 1 (excerpt.endColumn - excerpt.startColumn)) =
      error.headingRows name ++ error.diagnostic.lines ⟨name, source⟩ := by
  obtain ⟨_, unlabelled, number, column⟩ := Excerpt.ofSpan?_inv made
  rw [lines_eq made]
  simp [reportRows, Excerpt.numberedLine, Excerpt.caretLine, Excerpt.carets, Excerpt.gutter, unlabelled,
    number, column]

theorem isUnbroken_codeName (error : LexError) : IsUnbroken error.code.name := by
  have codes : ∀ code ∈ [DiagnosticCode.unterminatedString, .unbalancedDelimiter, .unexpectedCharacter],
      IsUnbroken code.name := by decide +kernel
  exact codes error.code (by cases error <;> simp [code])

/-- Only the name of the document could break the first two rows. -/
theorem feed_not_mem_heading {name : String} (plain : '\n' ∉ name.toList)
    (title : IsUnbroken error.title) : ∀ row ∈ error.headingRows name, '\n' ∉ row.toList := by
  have itself (text : String) : toString text = text := rfl
  have code := error.isUnbroken_codeName.no_feed
  have line := feed_not_mem_toString error.span.line
  have column := feed_not_mem_toString error.span.column
  simp only [headingRows, List.forall_mem_cons, String.toList_append, List.mem_append, itself, code,
    title.no_feed, plain, line, column, or_false]
  exact ⟨by decide, by decide, nofun⟩

end LexError

/-- An error is reported with the line that it names, in rows that do not break. Counters of 32 bits report
the same in texts of fewer than `2 ^ 32 - 1` characters. -/
theorem error_reports {name source : String} {error : LexError}
    (failed : (tokenize source).error = some error) (plain : '\n' ∉ name.toList) :
    ∃ line carets, error.Reports name source line carets := by
  obtain ⟨before, text, rest, whole, marks, faulty, _, _, span⟩ := exists_faulty failed
  have message := LexError.isUnbroken_message marks faulty
  have title := LexError.isUnbroken_title marks faulty
  have line : error.span.line = 1 + before.count '\n' := by
    rw [span]
    exact Position.behind_line before
  have place : 0 < error.span.line := by omega
  have cut : (SourceFile.mk name source).text.toList = before ++ (text ++ rest) := whole
  obtain ⟨excerpt, made, _⟩ := Excerpt.ofSpan?_of_append cut faulty.no_feed
  rw [← span] at made
  have rows := LexError.reportRows_eq made
  refine ⟨excerpt.line, max 1 (excerpt.endColumn - excerpt.startColumn), ?_⟩
  constructor
  case found => exact (Excerpt.ofSpan?_inv made).1
  case pointed => exact Nat.le_max_left _ _
  case whole =>
    rw [LexError.render, Diagnostic.toList_render, LexError.toList_heading place, rows, List.map_append,
      endLines_append]
  case rows =>
    intro row member
    rw [rows, List.mem_append] at member
    rcases member with heading | below
    · exact LexError.feed_not_mem_heading plain title row heading
    · exact Diagnostic.feed_not_mem_lines error.plainBody _ (List.mem_map_of_mem below)
  case count =>
    simp [LexError.reportRows, LexError.headingRows]
    omega
  case unbroken =>
    intro text member
    simp only [List.mem_append, List.mem_cons, List.not_mem_nil, or_false] at member
    rcases member with ((rfl | rfl) | note) | help
    · exact message
    · exact title
    · exact error.isUnbroken_of_mem_notes text note
    · exact error.isUnbroken_of_mem_helps text help

/-- At the end of a text, the line behind its last line feed is reported. -/
theorem error_reports_last_line :
    (tokenize "[\n").error =
        some (.unbalancedDelimiter none ⟨2, 2, 2, 1⟩ (some ⟨.array, ⟨0, 1, 1, 1⟩⟩)) ∧
      '\n' ∉ "a.dan".toList ∧ ∃ line carets,
        LexError.Reports (.unbalancedDelimiter none ⟨2, 2, 2, 1⟩ (some ⟨.array, ⟨0, 1, 1, 1⟩⟩)) "a.dan" "[\n"
          line carets := by
  have opens : (Lexer.ofText "[\n").next.1 = .ok ⟨.arrayOpen, "[", ⟨0, 1, 1, 1⟩⟩ := by decide
  have stops : (Lexer.ofText "[\n").next.2.next.1 =
      .error (.unbalancedDelimiter none ⟨2, 2, 2, 1⟩ (some ⟨.array, ⟨0, 1, 1, 1⟩⟩)) := by
    decide
  have failed : (tokenize "[\n").error =
      some (.unbalancedDelimiter none ⟨2, 2, 2, 1⟩ (some ⟨.array, ⟨0, 1, 1, 1⟩⟩)) := by
    rw [tokenize, Lexer.drain_of_next opens, Lexer.drain_of_error (Prod.ext stops rfl)]
    rfl
  exact ⟨failed, by decide, error_reports failed (by decide)⟩

end DataLexer
