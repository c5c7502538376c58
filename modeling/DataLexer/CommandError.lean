import DataLexer.FileTree
import DataLexer.LexError

namespace DataLexer

/-- What is wrong with the settings. -/
inductive SettingsError where
  | unreadable (path : String) (cause : AccessError)
  | malformed
  | unknownFormat (name : String)
  | noJobs
  | noExtensions
  | other (text : String)
deriving DecidableEq

/-- Why a document cannot be read. -/
inductive FileError where
  | missing (path : String)
  | notFile (path : String)
  | unreadable (path : String) (cause : AccessError)
  | other (text : String)
deriving DecidableEq

/-- What a command cannot do as it was asked, or what it found. -/
inductive RequestError where
  | noInput
  | missing (path : String)
  | noDocuments
  | unknownFormat (name : String)
  | failedDocuments (count : Nat)
  | other (text : String)
deriving DecidableEq

/-- Why a command fails. -/
inductive CommandError where
  | settings (cause : SettingsError)
  | file (cause : FileError)
  | request (cause : RequestError)
  | lexical (path : String) (error : LexError)
  | output (text : String)
deriving DecidableEq

def SettingsError.message : SettingsError → String
  | unreadable path cause => s!"Cannot read {path}: {cause.message}"
  | malformed => "Failed to parse configuration"
  | unknownFormat name => s!"output.format must be \"text\" or \"json\", got \"{name}\""
  | noJobs => "check.jobs must be at least 1"
  | noExtensions => "files.extensions must list at least one extension"
  | other text => text

def FileError.message : FileError → String
  | missing path => s!"Input path does not exist: {path}"
  | notFile path => s!"Input path is not a file: {path}"
  | unreadable path cause => s!"Failed to read: {path}: {cause.message}"
  | other text => text

def RequestError.message : RequestError → String
  | noInput => "No input files specified"
  | missing path => s!"Input path does not exist: {path}"
  | noDocuments => "No DAN files found"
  | unknownFormat name => s!"Unknown format: {name}"
  | failedDocuments count => s!"{count} file(s) failed lexical checks"
  | other text => text

def CommandError.message : CommandError → String
  | settings cause => s!"Configuration error: {cause.message}"
  | file cause => s!"File operation failed: {cause.message}"
  | request cause => s!"Validation error: {cause.message}"
  | lexical path error => s!"{path}: {error.message}"
  | output text => s!"IO error: {text}"

end DataLexer
