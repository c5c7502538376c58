import DataLexer.Check
import DataLexer.Highlight.Paint
import DataLexer.Listing
import DataLexer.OutputFormat

namespace DataLexer

structure TokensRequest where
  path : String
  format : Option String := none
  includeEof : Bool := false
deriving DecidableEq

structure CheckRequest where
  paths : List String
  jobs : Option Nat := none
  failFast : Bool := false
  format : Option String := none
deriving DecidableEq

/-- What a command prints, and why it fails if it does. -/
structure Printed where
  output : String := ""
  errors : String := ""
  failure : Option CommandError := none

namespace Printed

/-- Nothing but a failure. -/
def failed (failure : CommandError) : Printed := { failure }

end Printed

/-- What is printed about a document that is shown as far as it could be read. -/
def printDocument (path source output : String) (error : Option LexError) (color : Bool) : Printed :=
  match error with
  | none => { output }
  | some error => {
      output
      errors := error.render path source color
      failure := some (.lexical path error) }

/-- The tokens to list: the end of the text is left out unless it is asked for. -/
def TokensRequest.shown (request : TokensRequest) (tokens : List Token) : List Token :=
  tokens.filter fun token => request.includeEof || !token.isEof

def TokensRequest.run (request : TokensRequest) (tree : FileTree) (settings : Settings) (color : Bool) :
    Printed :=
  match OutputFormat.choose request.format settings.output with
  | .error cause => .failed (.request cause)
  | .ok format =>
    match tree.readDocument request.path with
    | .error cause => .failed (.file cause)
    | .ok source =>
      let stream := tokenize source
      let shown := request.shown stream.tokens
      let output := match format with
        | .text => listTokens shown
        | .json => jsonTokens shown
      printDocument request.path source output stream.error color

namespace CheckRequest

/-- The number of jobs: as asked for, or as the settings say, or one for each processor; one at least. -/
def jobCount (request : CheckRequest) (settings : CheckSettings) (processors : Nat) : Nat :=
  max 1 (request.jobs.getD (settings.jobs.getD processors))

/-- The first failure ends the run. -/
def stopsEarly (request : CheckRequest) (settings : CheckSettings) : Bool :=
  request.failFast || settings.failFast

/-- The reports on documents, in their order, as a single job gives them. -/
def reports (request : CheckRequest) (tree : FileTree) (settings : CheckSettings) (color : Bool)
    (documents : List String) : List FileReport :=
  checkFiles tree (request.stopsEarly settings) color documents

/-- The reports in a format. A document that failed makes the command fail. -/
def print (format : OutputFormat) (reports : List FileReport) : Printed :=
  let failed := (CheckSummary.ofReports reports).failed
  { output := match format with
      | .text => listReports reports
      | .json => jsonReports reports
    errors := String.join (reports.map (·.rendered))
    failure := if failed = 0 then none else some (.request (.failedDocuments failed)) }

def run (request : CheckRequest) (tree : FileTree) (settings : Settings) (color : Bool) : Printed :=
  match OutputFormat.choose request.format settings.output with
  | .error cause => .failed (.request cause)
  | .ok format =>
    match tree.collect settings.files request.paths with
    | .error cause => .failed (.request cause)
    | .ok [] => .failed (.request .noDocuments)
    | .ok documents => print format (request.reports tree settings.check color documents)

end CheckRequest

def runHighlight (path : String) (tree : FileTree) (color : Bool) : Printed :=
  match tree.readDocument path with
  | .error cause => .failed (.file cause)
  | .ok source =>
    let highlights := highlight source
    printDocument path source (highlights.paint source color) highlights.error color

def runLanguage (format : Option String) (settings : Settings) : Printed :=
  match OutputFormat.choose format settings.output with
  | .error cause => .failed (.request cause)
  | .ok .text => { output := Language.dan.toText }
  | .ok .json => { output := Language.dan.toJson.print }

inductive Command where
  | tokens (request : TokensRequest)
  | check (request : CheckRequest)
  | highlight (path : String)
  | language (format : Option String)
deriving DecidableEq

def Command.paths : Command → List String
  | tokens request => [request.path]
  | check request => request.paths
  | highlight path => [path]
  | language _ => []

def Command.run (tree : FileTree) (settings : Settings) (color : Bool) : Command → Printed
  | tokens request => request.run tree settings color
  | check request => request.run tree settings color
  | highlight path => runHighlight path tree color
  | language format => runLanguage format settings

end DataLexer
