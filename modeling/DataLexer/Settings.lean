import DataLexer.CommandError
import DataLexer.Language

namespace DataLexer

/-- Which files count as documents, and whether directories inside directories are looked into. -/
structure FileSettings where
  extensions : List String := Language.fileExtensions
  recursive : Bool := true
deriving DecidableEq

structure CheckSettings where
  jobs : Option Nat := none
  failFast : Bool := false
deriving DecidableEq

/-- How results are written. -/
structure OutputSettings where
  format : String := "text"
  color : Bool := true
deriving DecidableEq

structure Settings where
  verbose : Bool := false
  files : FileSettings := {}
  check : CheckSettings := {}
  output : OutputSettings := {}
deriving DecidableEq

namespace Settings

/-- What no command can work with, if there is such a thing. -/
def problem? (settings : Settings) : Option SettingsError :=
  if settings.output.format ≠ "text" ∧ settings.output.format ≠ "json" then
    some (.unknownFormat settings.output.format)
  else if settings.check.jobs = some 0 then some .noJobs
  else if settings.files.extensions.isEmpty then some .noExtensions
  else none

def validate (settings : Settings) : Except SettingsError Settings :=
  match settings.problem? with
  | some problem => .error problem
  | none => .ok settings

end Settings

/-- Structured data as settings are read from; `other` is a value that no setting takes. -/
inductive Datum where
  | flag (value : Bool)
  | integer (value : Int)
  | text (value : String)
  | list (items : List Datum)
  | table (members : List (String × Datum))
  | other
deriving Inhabited

namespace Datum

def flag? : Datum → Option Bool
  | flag value => some value
  | _ => none

/-- A count fits 64 bits. -/
def count? : Datum → Option Nat
  | integer value => if 0 ≤ value ∧ value.toNat < UInt64.size then some value.toNat else none
  | _ => none

def text? : Datum → Option String
  | text value => some value
  | _ => none

def texts? : Datum → Option (List String)
  | list items => items.mapM text?
  | _ => none

/-- The members of a record with the given field names. A list gives the fields in their order; a list
with more items than there are fields is refused when `exact` is asked for. -/
def record? (exact : Bool) (names : List String) : Datum → Option (List (String × Datum))
  | table members => some members
  | list items => if exact && names.length < items.length then none else some (names.zip items)
  | _ => none

/-- The field of a record, read as its type asks; a missing field has its default. -/
def field? {α : Type} (members : List (String × Datum)) (name : String) (read : Datum → Option α)
    (default : α) : Option α :=
  match members.lookup name with
  | some value => read value
  | none => some default

end Datum

namespace Settings

def files? (exact : Bool) (data : Datum) : Option FileSettings := do
  let members ← data.record? exact ["extensions", "recursive"]
  let defaults : FileSettings := {}
  let extensions ← Datum.field? members "extensions" Datum.texts? defaults.extensions
  let recursive ← Datum.field? members "recursive" Datum.flag? defaults.recursive
  return { extensions, recursive }

def check? (exact : Bool) (data : Datum) : Option CheckSettings := do
  let members ← data.record? exact ["jobs", "fail_fast"]
  let defaults : CheckSettings := {}
  let jobs ← Datum.field? members "jobs" (·.count?.map some) defaults.jobs
  let failFast ← Datum.field? members "fail_fast" Datum.flag? defaults.failFast
  return { jobs, failFast }

def output? (exact : Bool) (data : Datum) : Option OutputSettings := do
  let members ← data.record? exact ["format", "color"]
  let defaults : OutputSettings := {}
  let format ← Datum.field? members "format" Datum.text? defaults.format
  let color ← Datum.field? members "color" Datum.flag? defaults.color
  return { format, color }

/-- The settings in structured data. Members that are no settings are passed over. -/
def ofDatum? (exact : Bool) (data : Datum) : Option Settings := do
  let members ← data.record? exact ["verbose", "files", "check", "output"]
  let verbose ← Datum.field? members "verbose" Datum.flag? false
  let files ← Datum.field? members "files" (files? exact) {}
  let check ← Datum.field? members "check" (check? exact) {}
  let output ← Datum.field? members "output" (output? exact) {}
  return { verbose, files, check, output }

end Settings

end DataLexer
