import DataLexer.Program
import DataLexer.Proofs.JsonReading
import DataLexer.Proofs.Requests

namespace DataLexer

/-- Tokens as they are listed in a format. -/
def OutputFormat.listing (format : OutputFormat) (tokens : List Token) : String :=
  match format with
  | text => listTokens tokens
  | json => jsonTokens tokens

/-- How many tokens an output in a format lists: the rows of a text, the items of a JSON array. -/
def OutputFormat.countListed? (format : OutputFormat) (output : String) : Option Nat :=
  match format with
  | text => some (output.toList.count '\n')
  | json => (Json.read? output).bind fun
      | .array items => some items.length
      | _ => none

/-- A request for the tokens at `path`, with a format that there is. -/
structure TokensRequest.Lists (request : TokensRequest) (settings : Settings) (path : String)
    (format : OutputFormat) : Prop where
  path : request.path = path
  format : OutputFormat.choose request.format settings.output = .ok format

/-- The error of a document as each command shows it. -/
structure ShownAlike (tree : FileTree) (path source : String) (color : Bool) (error : LexError) : Prop where
  diagnostics : (checkFile tree path color).diagnostics = [error.diagnostic]
  check : (checkFile tree path color).rendered = error.render path source color
  tokens : ∀ request settings format, TokensRequest.Lists request settings path format →
    (Outcome.ofPrinted (request.run tree settings color)).stderr = error.render path source color
  highlight : (Outcome.ofPrinted (runHighlight path tree color)).stderr = error.render path source color

/-- What the commands make of the document at `path` with the text `source`. -/
structure CommandsAgree (tree : FileTree) (path source : String) (color : Bool) : Prop where
  checks : (checkFile tree path color).status = .ok ↔ (tokenize source).error = none
  lists : ∀ request settings format, TokensRequest.Lists request settings path format →
    ((request.run tree settings color).failure = none ↔ (tokenize source).error = none)
  highlights : (runHighlight path tree color).failure = none ↔ (tokenize source).error = none
  listed : ∀ request settings format, TokensRequest.Lists request settings path format →
    request.includeEof = true →
    (request.run tree settings color).output = format.listing (tokenize source).tokens
  counted : (checkFile tree path color).tokens = (tokenize source).tokens.length
  printed : ∀ request settings format, TokensRequest.Lists request settings path format →
    request.includeEof = true →
    format.countListed? (request.run tree settings color).output = some (checkFile tree path color).tokens
  shown : ∀ error, (tokenize source).error = some error → ShownAlike tree path source color error
  ranges : (DataLexer.highlight source).ranges =
    ((tokenize source).tokens.filter fun token => token.kind ≠ .newline ∧ token.kind ≠ .eof).map
      fun token => ⟨token.span.start, token.span.stop, token.kind⟩
  error : (DataLexer.highlight source).error = (tokenize source).error
  plain : (runHighlight path tree false).output = source

/-- A listing shows every token once, in either format. -/
theorem OutputFormat.countListed?_listing (format : OutputFormat) (tokens : List Token) :
    format.countListed? (format.listing tokens) = some tokens.length := by
  cases format with
  | text => exact congrArg some (count_feed_listTokens tokens)
  | json =>
    simp [countListed?, listing, read?_jsonTokens]

theorem FileTree.readDocument_of_file {tree : FileTree} {path source : String} {bytes : ByteArray}
    (file : tree.find path = .ok (.file bytes)) (text : String.fromUTF8? bytes = some source) :
    tree.readDocument path = .ok source := by
  have present : tree.present path = true := by simp [FileTree.present, file, Except.isOk, Except.toBool]
  have isFile : tree.isFile path = true := by simp [FileTree.isFile, file]
  have readText : tree.readText path = .ok source := by
    simp only [FileTree.readText, file, text, bind, Except.bind]
    rfl
  simp [FileTree.readDocument, present, isFile, readText]

section Read

variable {tree : FileTree} {path source : String} (read : tree.readDocument path = .ok source)
  (color : Bool)

include read

/-- The report on a document that can be read. -/
theorem checkFile_of_read : checkFile tree path color =
    { path
      status := if (tokenize source).error.isSome then .failed else .ok
      tokens := (tokenize source).tokens.length
      diagnostics := (tokenize source).error.toList.map LexError.diagnostic
      rendered := String.join ((tokenize source).error.toList.map (·.render path source color)) } := by
  unfold checkFile
  rw [read]
  dsimp only
  cases (tokenize source).error <;> rfl

theorem TokensRequest.run_of_read {request : TokensRequest} {settings : Settings} {format : OutputFormat}
    (lists : request.Lists settings path format) : request.run tree settings color =
      printDocument path source (format.listing (request.shown (tokenize source).tokens))
        (tokenize source).error color := by
  unfold TokensRequest.run
  rw [lists.format, lists.path, read]
  rfl

theorem runHighlight_of_read : runHighlight path tree color =
    printDocument path source ((highlight source).paint source color) (tokenize source).error color := by
  unfold runHighlight
  rw [read]
  dsimp only
  rw [highlight_eq]

end Read

theorem printDocument_failure {path source output : String} {error : Option LexError} {color : Bool} :
    (printDocument path source output error color).failure = none ↔ error = none := by
  cases error <;> simp [printDocument]

theorem printDocument_output {path source output : String} {error : Option LexError} {color : Bool} :
    (printDocument path source output error color).output = output := by
  cases error <;> rfl

/-- The error of a document is told once. -/
theorem stderr_printDocument (path source output : String) (error : LexError) (color : Bool) :
    (Outcome.ofPrinted (printDocument path source output (some error) color)).stderr =
      error.render path source color :=
  String.append_empty

theorem TokensRequest.shown_of_includeEof {request : TokensRequest} (all : request.includeEof = true)
    (tokens : List Token) : request.shown tokens = tokens := by
  simp [TokensRequest.shown, all]

theorem filterMap_range? (tokens : List Token) :
    (tokens.filter (!·.isEof)).filterMap Token.range? =
      (tokens.filter fun token => token.kind ≠ .newline ∧ token.kind ≠ .eof).map
        fun token => ⟨token.span.start, token.span.stop, token.kind⟩ := by
  rw [← List.filterMap_eq_map, List.filterMap_filter, List.filterMap_filter]
  congr 1
  funext token
  by_cases last : token.kind = .eof
  · simp [Token.isEof, last]
  · by_cases feed : token.kind = .newline <;> simp [Token.isEof, Token.range?, last, feed]

/-- The commands agree on every document that can be read. -/
theorem commands_agree {tree : FileTree} {path source : String} {bytes : ByteArray}
    (file : tree.find path = .ok (.file bytes)) (text : String.fromUTF8? bytes = some source)
    (color : Bool) : CommandsAgree tree path source color := by
  have read := FileTree.readDocument_of_file file text
  have report := checkFile_of_read read color
  constructor
  case checks =>
    rw [report]
    cases (tokenize source).error <;> simp
  case lists =>
    intro request settings format lists
    rw [request.run_of_read read color lists, printDocument_failure]
  case highlights => rw [runHighlight_of_read read color, printDocument_failure]
  case listed =>
    intro request settings format lists all
    rw [request.run_of_read read color lists, printDocument_output, request.shown_of_includeEof all]
  case counted => rw [report]
  case printed =>
    intro request settings format lists all
    rw [request.run_of_read read color lists, printDocument_output, request.shown_of_includeEof all, report]
    exact format.countListed?_listing _
  case shown =>
    intro error failed
    constructor
    · rw [report, failed]
      rfl
    · rw [report, failed]
      simp [String.join_cons]
    · intro request settings format lists
      rw [request.run_of_read read color lists, failed, stderr_printDocument]
    · rw [runHighlight_of_read read color, failed, stderr_printDocument]
  case ranges =>
    rw [highlight_eq]
    exact filterMap_range? _
  case error => rw [highlight_eq]
  case plain =>
    rw [runHighlight_of_read read false, printDocument_output]
    rfl

/-- A document in the working directory with a bracket that is never closed. -/
theorem commands_agree_unclosed :
    let tree : FileTree := { root := .directory [("a.dan", .file "[".toUTF8)] }
    tree.find "a.dan" = .ok (.file "[".toUTF8) ∧ String.fromUTF8? "[".toUTF8 = some "[" ∧
      CommandsAgree tree "a.dan" "[" true := by
  intro tree
  have resolve : tree.resolve "a.dan" = .ok ["a.dan"] := by
    have steps : FileTree.steps "a.dan" = ["a.dan"] := by decide
    have long : ¬ FileTree.maxPath < "a.dan".utf8ByteSize := by decide
    have name : ¬ FileTree.maxName < "a.dan".utf8ByteSize := by decide
    have relative : Path.isAbsolute "a.dan" = false := by decide
    unfold FileTree.resolve
    rw [if_neg (by simp), if_neg long, steps, relative]
    simp [FileTree.follow, tree, Entry.at?, Entry.lookup, name]
  have file : tree.find "a.dan" = .ok (.file "[".toUTF8) := by
    unfold FileTree.find
    rw [resolve]
    rfl
  have text : String.fromUTF8? "[".toUTF8 = some "[" := dif_pos "[".isValidUTF8
  exact ⟨file, text, commands_agree file text true⟩

end DataLexer
