import DataLexer.Diagnostic.Basic
import DataLexer.Proofs.Lines
import DataLexer.Proofs.Listing

namespace DataLexer

/-- The column, counted from one, of the bar or the equals sign that ends the gutter of a line. -/
def separatorColumn (line : List Char) : Nat :=
  1 + (line.takeWhile fun c => c != '|' && c != '=').length

namespace Excerpt

def gutter (excerpt : Excerpt) : Nat := gutterWidth excerpt.lineNumber

def numberedLine (excerpt : Excerpt) : String :=
  alignRight excerpt.gutter (toString excerpt.lineNumber) ++ " | " ++ excerpt.line

def caretLine (excerpt : Excerpt) : String :=
  spaces excerpt.gutter ++ " | " ++ spaces (excerpt.startColumn - 1) ++ excerpt.carets ++
    (match excerpt.label with
      | some label => " " ++ label
      | none => "")

/-- Neither the line nor the label breaks. -/
def IsPlain (excerpt : Excerpt) : Prop :=
  '\n' ∉ excerpt.line.toList ∧ ∀ label, excerpt.label = some label → '\n' ∉ label.toList

end Excerpt

namespace Diagnostic

/-- The title and the place of a rendered diagnostic. -/
def heading (diagnostic : Diagnostic) (file : SourceFile) (color : Bool) : String :=
  diagnostic.title color ++
    if diagnostic.span.hasPlace then s!"  --> {file.name}:{diagnostic.span.place}\n" else ""

/-- The width of the gutter for all that is shown. -/
def gutter (diagnostic : Diagnostic) (file : SourceFile) : Nat :=
  ((diagnostic.shown file).map Excerpt.gutter).foldl max 3

def remarkLine (width : Nat) (kind text : String) : String :=
  spaces width ++ " = " ++ kind ++ ": " ++ text

/-- What is set below the heading, line by line. -/
def lines (diagnostic : Diagnostic) (file : SourceFile) : List String :=
  (if (diagnostic.shown file).isEmpty then [] else [spaces (diagnostic.gutter file) ++ " |"]) ++
    (diagnostic.shown file).flatMap (fun excerpt => [excerpt.numberedLine, excerpt.caretLine]) ++
    diagnostic.notes.map (remarkLine (diagnostic.gutter file) "note") ++
    diagnostic.helps.map (remarkLine (diagnostic.gutter file) "help")

/-- The lines of a rendered diagnostic below its heading. -/
def body (diagnostic : Diagnostic) (file : SourceFile) (color : Bool) : List (List Char) :=
  let heading := (diagnostic.heading file color).toList
  (splitLines ((diagnostic.render file color).toList.drop heading.length)).dropLast

/-- The separators of all lines below the heading stand in one column. -/
def Aligned (diagnostic : Diagnostic) (file : SourceFile) (color : Bool) : Prop :=
  ∀ line ∈ diagnostic.body file color, ∀ other ∈ diagnostic.body file color,
    separatorColumn line = separatorColumn other

/-- The columns that the gutters set: one width for the empty gutter and the remarks, and a width of its
own for each excerpt. -/
def separatorColumns (diagnostic : Diagnostic) (file : SourceFile) : List Nat :=
  (if (diagnostic.shown file).isEmpty then [] else [diagnostic.gutter file + 2]) ++
    (diagnostic.shown file).flatMap (fun excerpt => [excerpt.gutter + 2, excerpt.gutter + 2]) ++
    (diagnostic.notes ++ diagnostic.helps).map fun _ => diagnostic.gutter file + 2

/-- No text of the body breaks. -/
structure PlainBody (diagnostic : Diagnostic) : Prop where
  excerpts : ∀ excerpt ∈ diagnostic.excerpts, excerpt.IsPlain
  notes : ∀ note ∈ diagnostic.notes, '\n' ∉ note.toList
  helps : ∀ help ∈ diagnostic.helps, '\n' ∉ help.toList

/-- Where the separators below the heading of a diagnostic stand. -/
structure GutterLaw (diagnostic : Diagnostic) (file : SourceFile) (color : Bool) : Prop where
  whole : (diagnostic.render file color).toList =
    (diagnostic.heading file color).toList ++ endLines (diagnostic.body file color)
  columns : (diagnostic.body file color).map separatorColumn = diagnostic.separatorColumns file
  aligned : diagnostic.Aligned file color ↔
    ∀ excerpt ∈ diagnostic.shown file, excerpt.gutter = diagnostic.gutter file

end Diagnostic

theorem separatorColumn_append {lead rest : List Char} {separator : Char} (bar : '|' ∉ lead)
    (equals : '=' ∉ lead) (separates : separator = '|' ∨ separator = '=') :
    separatorColumn (lead ++ ' ' :: separator :: rest) = lead.length + 2 := by
  have kept : ∀ c ∈ lead ++ [' '], (c != '|' && c != '=') = true := by
    intro c member
    rcases List.mem_append.mp member with inside | space
    · simp [ne_of_mem_of_not_mem inside bar, ne_of_mem_of_not_mem inside equals]
    · rw [List.mem_singleton.mp space]
      decide
  have whole : lead ++ ' ' :: separator :: rest = (lead ++ [' ']) ++ separator :: rest := by simp
  have stops : (separator :: rest).takeWhile (fun c => c != '|' && c != '=') = [] := by
    rcases separates with rfl | rfl <;> rfl
  rw [separatorColumn, whole, List.takeWhile_append_of_pos kept, stops]
  simp
  omega

theorem separatorColumn_spaces {width : Nat} {separator : Char} {rest : List Char}
    (separates : separator = '|' ∨ separator = '=') :
    separatorColumn (List.replicate width ' ' ++ ' ' :: separator :: rest) = width + 2 := by
  have other {c : Char} (solid : c ≠ ' ') : c ∉ List.replicate width ' ' :=
    fun member => solid (List.eq_of_mem_replicate member)
  rw [separatorColumn_append (other (by decide)) (other (by decide)) separates, List.length_replicate]

theorem toList_spaces (width : Nat) : (spaces width).toList = List.replicate width ' ' :=
  String.toList_ofList

theorem feed_not_mem_of_mem_splitLines {text line : List Char} (member : line ∈ splitLines text) :
    '\n' ∉ line := by
  obtain ⟨lines, whole, _, plain⟩ := exists_endLines text
  obtain ⟨later, split⟩ := splitLines_eq_cons (lastLine text)
  have last := splitLines_of_plain (feed_not_mem_lastLine text)
  rw [← whole, splitLines_endLines plain, last] at member
  rcases List.mem_append.mp member with earlier | under
  · exact plain line earlier
  · rw [List.mem_singleton.mp under]
    exact feed_not_mem_lastLine text

theorem feed_not_mem_line? {file : SourceFile} {n : Nat} {line : String}
    (found : file.line? n = some line) : '\n' ∉ line.toList := by
  unfold SourceFile.line? at found
  split at found
  · cases found
  · obtain ⟨whole, at', rfl⟩ := Option.map_eq_some_iff.mp found
    have plain := feed_not_mem_of_mem_splitLines (List.mem_of_getElem? at')
    rw [String.toList_ofList]
    exact fun feed => plain ((List.rdropWhile_prefix _ _).mem feed)

theorem mem_alignRight {width : Nat} {text : String} {fill c : Char}
    (member : c ∈ (alignRight width text fill).toList) : c = fill ∨ c ∈ text.toList := by
  rw [alignRight, String.toList_append, List.mem_append] at member
  refine member.imp_left fun inside => ?_
  rw [repeated, String.toList_ofList] at inside
  exact List.eq_of_mem_replicate inside

theorem length_alignRight (width : Nat) (text : String) (fill : Char) :
    (alignRight width text fill).toList.length = max width text.length := by
  rw [alignRight, repeated, String.toList_append, String.toList_ofList, List.length_append,
    List.length_replicate, String.length_toList]
  omega

namespace Excerpt

variable {excerpt : Excerpt}

theorem feed_not_mem_numberedLine (plain : excerpt.IsPlain) : '\n' ∉ excerpt.numberedLine.toList := by
  rw [numberedLine, String.toList_append, String.toList_append, List.mem_append, List.mem_append]
  rintro ((number | bar) | line)
  · rcases mem_alignRight number with fill | digit
    · cases fill
    · exact feed_not_mem_toString _ digit
  · exact absurd bar (by decide)
  · exact plain.1 line

theorem feed_not_mem_caretLine (plain : excerpt.IsPlain) : '\n' ∉ excerpt.caretLine.toList := by
  have label := plain.2
  unfold caretLine
  cases given : excerpt.label with
  | none => simp [toList_spaces, carets, repeated, List.mem_replicate]
  | some text => simp [toList_spaces, carets, repeated, List.mem_replicate, label text given]

/-- The number of a line stands in front of its bar, set to the right of the gutter. -/
theorem separatorColumn_numberedLine (excerpt : Excerpt) :
    separatorColumn excerpt.numberedLine.toList = excerpt.gutter + 2 := by
  have solid (c : Char) (other : c ≠ ' ') (noDigit : c.isDigit = false) :
      c ∉ (alignRight excerpt.gutter (toString excerpt.lineNumber)).toList := by
    intro member
    rcases mem_alignRight member with fill | digit
    · exact other fill
    · simp [isDigit_of_mem_toString digit] at noDigit
  have width : (alignRight excerpt.gutter (toString excerpt.lineNumber)).toList.length =
      excerpt.gutter := by
    rw [length_alignRight, gutter, gutterWidth]
    omega
  have parts : excerpt.numberedLine.toList =
      (alignRight excerpt.gutter (toString excerpt.lineNumber)).toList ++ ' ' :: '|' :: ' ' ::
        excerpt.line.toList := by
    simp [numberedLine]
  rw [parts, separatorColumn_append (solid '|' (by decide) (by decide)) (solid '=' (by decide) (by decide))
    (Or.inl rfl), width]

theorem separatorColumn_caretLine (excerpt : Excerpt) :
    separatorColumn excerpt.caretLine.toList = excerpt.gutter + 2 := by
  simp only [caretLine, String.toList_append, toList_spaces, List.append_assoc]
  exact separatorColumn_spaces (Or.inl rfl)

/-- The excerpt of a span is the line that the span names. -/
theorem ofSpan?_inv {file : SourceFile} {span : Span} (made : ofSpan? file span = some excerpt) :
    file.line? span.line = some excerpt.line ∧ excerpt.label = none ∧
      excerpt.lineNumber = span.line ∧ excerpt.startColumn = span.column := by
  obtain ⟨line, found, rest⟩ := Option.bind_eq_some_iff.mp made
  cases rest
  exact ⟨found, rfl, rfl, rfl⟩

theorem isPlain_of_ofSpan? {file : SourceFile} {span : Span} (made : ofSpan? file span = some excerpt) :
    excerpt.IsPlain := by
  obtain ⟨found, unlabelled, _, _⟩ := ofSpan?_inv made
  exact ⟨feed_not_mem_line? found, by simp [unlabelled]⟩

theorem render_eq (excerpt : Excerpt) :
    excerpt.render = excerpt.numberedLine ++ "\n" ++ excerpt.caretLine := by
  unfold render numberedLine caretLine gutter
  cases excerpt.label <;> simp only [String.append_assoc]

end Excerpt

namespace Diagnostic

variable {diagnostic : Diagnostic} {file : SourceFile} {color : Bool}

theorem separatorColumn_remarkLine (width : Nat) (kind text : String) :
    separatorColumn (remarkLine width kind text).toList = width + 2 := by
  simp only [remarkLine, String.toList_append, toList_spaces, List.append_assoc]
  exact separatorColumn_spaces (Or.inr rfl)

theorem feed_not_mem_remarkLine (width : Nat) {kind text : String} (plainKind : '\n' ∉ kind.toList)
    (plain : '\n' ∉ text.toList) : '\n' ∉ (remarkLine width kind text).toList := by
  simp [remarkLine, toList_spaces, List.mem_replicate, plainKind, plain]

theorem render_eq (diagnostic : Diagnostic) (file : SourceFile) (color : Bool) :
    diagnostic.render file color =
      diagnostic.heading file color ++ String.join ((diagnostic.lines file).map (· ++ "\n")) := by
  have width : ((diagnostic.shown file).map (gutterWidth ·.lineNumber)).foldl max 3 =
      diagnostic.gutter file := rfl
  have remark (width : Nat) (kind text : String) :
      spaces width ++ s!" = {kind}: {text}\n" = remarkLine width kind text ++ "\n" := by
    simp only [remarkLine, String.append_assoc]
    rfl
  have gutter : (if (diagnostic.shown file).isEmpty then "" else
      spaces (diagnostic.gutter file) ++ " |\n") =
      String.join ((if (diagnostic.shown file).isEmpty then [] else
        [spaces (diagnostic.gutter file) ++ " |"]).map (· ++ "\n")) := by
    split
    · rfl
    · simp [String.append_assoc]
  have excerpts (excerpts : List Excerpt) : String.join (excerpts.map (·.render ++ "\n")) =
      String.join ((excerpts.flatMap fun excerpt =>
        [excerpt.numberedLine, excerpt.caretLine]).map (· ++ "\n")) := by
    induction excerpts with
    | nil => rfl
    | cons excerpt excerpts ih =>
      rw [List.map_cons, String.join_cons, ih, Excerpt.render_eq, List.flatMap_cons, List.map_append,
        String.join_append]
      simp [String.append_assoc]
  have remarks (kind : String) (texts : List String) :
      String.join (texts.map fun text => spaces (diagnostic.gutter file) ++ s!" = {kind}: {text}\n") =
        String.join ((texts.map (remarkLine (diagnostic.gutter file) kind)).map (· ++ "\n")) := by
    simp only [remark, List.map_map]
    rfl
  unfold render heading lines
  simp only [width, gutter, excerpts, remarks, List.map_append, String.join_append]
  simp only [String.append_assoc]

theorem isPlain_shown (plain : diagnostic.PlainBody) :
    ∀ excerpt ∈ diagnostic.shown file, excerpt.IsPlain := by
  unfold shown
  split
  · intro excerpt member
    exact Excerpt.isPlain_of_ofSpan? (Option.mem_toList.mp member)
  · exact plain.excerpts

theorem feed_not_mem_lines (plain : diagnostic.PlainBody) :
    ∀ line ∈ (diagnostic.lines file).map String.toList, '\n' ∉ line := by
  have shown : ∀ excerpt ∈ diagnostic.shown file, excerpt.IsPlain := isPlain_shown plain
  have gutter : '\n' ∉ (spaces (diagnostic.gutter file) ++ " |").toList := by
    simp [toList_spaces, List.mem_replicate]
  intro line member
  obtain ⟨text, inside, rfl⟩ := List.mem_map.mp member
  simp only [lines, List.mem_append, List.mem_flatMap, List.mem_map] at inside
  rcases inside with ((empty | ⟨excerpt, given, row⟩) | ⟨note, given, rfl⟩) | ⟨help, given, rfl⟩
  · split at empty
    · cases empty
    · rwa [List.mem_singleton.mp empty]
  · rcases List.mem_cons.mp row with rfl | row
    · exact Excerpt.feed_not_mem_numberedLine (shown excerpt given)
    · rw [List.mem_singleton.mp row]
      exact Excerpt.feed_not_mem_caretLine (shown excerpt given)
  · exact feed_not_mem_remarkLine _ (by decide) (plain.notes note given)
  · exact feed_not_mem_remarkLine _ (by decide) (plain.helps help given)

theorem toList_render (diagnostic : Diagnostic) (file : SourceFile) (color : Bool) :
    (diagnostic.render file color).toList =
      (diagnostic.heading file color).toList ++ endLines ((diagnostic.lines file).map String.toList) := by
  simp [render_eq, endLines, List.flatMap_map]

/-- The lines below the heading are those that were set there. -/
theorem body_eq (plain : diagnostic.PlainBody) (color : Bool) :
    diagnostic.body file color = (diagnostic.lines file).map String.toList := by
  have unbroken : ∀ line ∈ (diagnostic.lines file).map String.toList, '\n' ∉ line :=
    feed_not_mem_lines plain
  have split := splitLines_endLines unbroken []
  rw [List.append_nil] at split
  unfold body
  dsimp only
  rw [toList_render, List.drop_left, split]
  exact List.dropLast_concat

theorem columns_lines (diagnostic : Diagnostic) (file : SourceFile) :
    (diagnostic.lines file).map (separatorColumn ·.toList) = diagnostic.separatorColumns file := by
  have gutter : separatorColumn (spaces (diagnostic.gutter file) ++ " |").toList =
      diagnostic.gutter file + 2 := by
    rw [String.toList_append, toList_spaces]
    exact separatorColumn_spaces (Or.inl rfl)
  have first : (if (diagnostic.shown file).isEmpty then [] else
      [spaces (diagnostic.gutter file) ++ " |"]).map (separatorColumn ·.toList) =
        if (diagnostic.shown file).isEmpty then [] else [diagnostic.gutter file + 2] := by
    split
    · rfl
    · rw [List.map_singleton, gutter]
  simp only [lines, separatorColumns, List.map_append, first, List.map_flatMap, List.map_map,
    Function.comp_def, List.map_cons, List.map_nil, Excerpt.separatorColumn_numberedLine,
    Excerpt.separatorColumn_caretLine, separatorColumn_remarkLine, List.append_assoc]

theorem gutter_mem_separatorColumns {excerpt : Excerpt} (given : excerpt ∈ diagnostic.shown file) :
    diagnostic.gutter file + 2 ∈ diagnostic.separatorColumns file := by
  have shows : ¬ (diagnostic.shown file).isEmpty := by
    rw [List.isEmpty_iff]
    exact List.ne_nil_of_mem given
  simp [separatorColumns, shows]

theorem excerpt_mem_separatorColumns {excerpt : Excerpt} (given : excerpt ∈ diagnostic.shown file) :
    excerpt.gutter + 2 ∈ diagnostic.separatorColumns file := by
  simp only [separatorColumns, List.mem_append, List.mem_flatMap]
  exact Or.inl (Or.inr ⟨excerpt, given, List.mem_cons_self⟩)

theorem eq_gutter_of_mem_separatorColumns
    (wide : ∀ excerpt ∈ diagnostic.shown file, excerpt.gutter = diagnostic.gutter file) {column : Nat}
    (member : column ∈ diagnostic.separatorColumns file) : column = diagnostic.gutter file + 2 := by
  simp only [separatorColumns, List.mem_append, List.mem_flatMap, List.mem_map] at member
  rcases member with (empty | ⟨excerpt, given, row⟩) | ⟨_, _, same⟩
  · split at empty
    · cases empty
    · exact List.mem_singleton.mp empty
  · rw [wide excerpt given] at row
    simpa using row
  · exact same.symm

end Diagnostic

/-- Separators are aligned as far as the line numbers are equally wide. -/
theorem render_gutters {diagnostic : Diagnostic} (plain : diagnostic.PlainBody) (file : SourceFile)
    (color : Bool) : diagnostic.GutterLaw file color := by
  have body : diagnostic.body file color = (diagnostic.lines file).map String.toList :=
    Diagnostic.body_eq plain color
  have columns : (diagnostic.body file color).map separatorColumn = diagnostic.separatorColumns file := by
    rw [body, List.map_map]
    exact diagnostic.columns_lines file
  refine ⟨by rw [body, Diagnostic.toList_render], columns, ?_⟩
  constructor
  · intro aligned excerpt given
    have stands {column : Nat} (member : column ∈ diagnostic.separatorColumns file) :
        ∃ line ∈ diagnostic.body file color, separatorColumn line = column := by
      rw [← columns] at member
      exact List.mem_map.mp member
    obtain ⟨gutter, first, gutterColumn⟩ := stands (Diagnostic.gutter_mem_separatorColumns given)
    obtain ⟨line, second, lineColumn⟩ := stands (Diagnostic.excerpt_mem_separatorColumns given)
    have same := aligned line second gutter first
    omega
  · intro wide line first other second
    have stand {line : List Char} (member : line ∈ diagnostic.body file color) :
        separatorColumn line = diagnostic.gutter file + 2 := by
      refine Diagnostic.eq_gutter_of_mem_separatorColumns wide ?_
      rw [← columns]
      exact List.mem_map_of_mem member
    rw [stand first, stand second]

/-- Two excerpts whose line numbers are not equally wide, and a note. -/
def Diagnostic.ofTwoWidths : Diagnostic where
  message := "m"
  excerpts := [⟨"x", 9, 1, 2, none⟩, ⟨"y", 1000, 1, 2, none⟩]
  notes := ["n"]

/-- The excerpt of line 9 stands one column to the left of what is set by line 1000. -/
theorem render_gutters_two_lines :
    Diagnostic.ofTwoWidths.PlainBody ∧
      (Diagnostic.ofTwoWidths.body ⟨"a.dan", ""⟩ false).map separatorColumn = [6, 5, 5, 6, 6, 6] := by
  have plain : Diagnostic.ofTwoWidths.PlainBody := by
    constructor <;> simp [Diagnostic.ofTwoWidths, Excerpt.IsPlain]
  refine ⟨plain, (render_gutters plain ⟨"a.dan", ""⟩ false).columns.trans ?_⟩
  decide

/-- Line numbers that are not equally wide leave the separators out of line. -/
theorem gutters_apart :
    Diagnostic.ofTwoWidths.PlainBody ∧ ¬ Diagnostic.ofTwoWidths.Aligned ⟨"a.dan", ""⟩ false := by
  constructor
  · constructor <;> simp [Diagnostic.ofTwoWidths, Excerpt.IsPlain]
  · unfold Diagnostic.Aligned
    decide

end DataLexer
