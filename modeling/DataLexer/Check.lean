import DataLexer.Diagnostic.Lexical
import DataLexer.Documents
import DataLexer.TokenStream

namespace DataLexer

/-- What became of a document: it has no errors, it has some or cannot be read, or it was left out after
another one had failed. -/
inductive Status where
  | ok
  | failed
  | skipped
deriving DecidableEq

namespace Status

def name : Status → String
  | ok => "ok"
  | failed => "failed"
  | skipped => "skipped"

def ofName? (text : String) : Option Status := [ok, failed, skipped].find? (·.name = text)

end Status

/-- The result for one document. `tokens` counts the end of the text too if it was reached. -/
structure FileReport where
  path : String
  status : Status
  tokens : Nat := 0
  diagnostics : List Diagnostic := []
  rendered : String := ""

namespace FileReport

def skipped (path : String) : FileReport := { path, status := .skipped }

/-- The report on a document with the given text and diagnostics. -/
def ofLog (path source : String) (tokens : Nat) (log : DiagnosticLog) (color : Bool) : FileReport where
  path
  status := if log.hasErrors then .failed else .ok
  tokens
  diagnostics := log.entries
  rendered := String.join (log.entries.map (·.render ⟨path, source⟩ color))

end FileReport

def checkFile (tree : FileTree) (path : String) (color : Bool) : FileReport :=
  match tree.readDocument path with
  | .ok source =>
    let stream := tokenize source
    let log := (stream.error.map LexError.diagnostic).toList.foldl DiagnosticLog.report {}
    .ofLog path source stream.tokens.length log color
  | .error cause =>
    let diagnostic : Diagnostic :=
      { message := (CommandError.file cause).message, code := some .unreadableFile }
    .ofLog path "" 0 (DiagnosticLog.report {} diagnostic) color

/-- Checks documents in turn. With `failFast` those behind the first that fails are skipped. -/
def checkFiles (tree : FileTree) (failFast color : Bool) : List String → List FileReport
  | [] => []
  | path :: paths =>
    let report := checkFile tree path color
    report ::
      if failFast && report.status = .failed then paths.map .skipped
      else checkFiles tree failFast color paths

/-- The totals of a run. -/
structure CheckSummary where
  checked : Nat
  ok : Nat
  failed : Nat
  skipped : Nat
deriving DecidableEq

namespace CheckSummary

def ofStatuses (statuses : List Status) : CheckSummary where
  checked := statuses.length
  ok := statuses.count .ok
  failed := statuses.count .failed
  skipped := statuses.count .skipped

def ofReports (reports : List FileReport) : CheckSummary := ofStatuses (reports.map (·.status))

/-- The totals in one line; skipped documents are mentioned if there are any. -/
def line (summary : CheckSummary) : String :=
  let skipped := if 0 < summary.skipped then s!", {summary.skipped} skipped" else ""
  s!"checked {summary.checked} file(s): {summary.ok} ok, {summary.failed} failed" ++ skipped

def toJson (summary : CheckSummary) : Json :=
  .object [
    ("checked", .number summary.checked),
    ("ok", .number summary.ok),
    ("failed", .number summary.failed),
    ("skipped", .number summary.skipped)]

end CheckSummary

namespace FileReport

/-- The message of a diagnostic and its place. -/
def diagnosticJson (diagnostic : Diagnostic) : Json :=
  .object [
    ("code", match diagnostic.code with
      | some code => .string code.name
      | none => .null),
    ("message", .string diagnostic.message),
    ("line", .number diagnostic.span.line),
    ("column", .number diagnostic.span.column)]

def toJson (report : FileReport) : Json :=
  .object [
    ("path", .string report.path),
    ("status", .string report.status.name),
    ("tokens", .number report.tokens),
    ("diagnostics", .array (report.diagnostics.map diagnosticJson))]

end FileReport

/-- The reports as text: the documents that failed, and the totals. -/
def listReports (reports : List FileReport) : String :=
  let failed := reports.filter (·.status = .failed)
  String.join (failed.map fun report => s!"{report.path}: failed\n") ++
    (CheckSummary.ofReports reports).line ++ "\n"

/-- The reports as an object with all documents and the totals. -/
def jsonReports (reports : List FileReport) : String :=
  (Json.object [
    ("files", .array (reports.map (·.toJson))),
    ("summary", (CheckSummary.ofReports reports).toJson)]).print

end DataLexer
