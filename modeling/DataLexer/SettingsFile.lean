import DataLexer.Settings
import DataLexer.Toml.Document

namespace DataLexer

mutual

/-- A value as settings are read from it. A date-time counts as a table without members that matter. -/
def Toml.Value.toDatum : Toml.Value → Datum
  | .string text => .text text
  | .integer value => .integer value
  | .float _ => .other
  | .boolean value => .flag value
  | .dateTime _ => .table []
  | .array items => .list (Toml.Value.toData items)
  | .table _ members => .table (Toml.Value.toMembers members)
  | .tables elements => .list (Toml.Value.toTables elements)

def Toml.Value.toData : List Toml.Value → List Datum
  | [] => []
  | item :: items => item.toDatum :: Toml.Value.toData items

def Toml.Value.toMembers : List (String × Toml.Value) → List (String × Datum)
  | [] => []
  | (key, value) :: members => (key, value.toDatum) :: Toml.Value.toMembers members

/-- The tables of an array, which are kept last table first. -/
def Toml.Value.toTables : List (List (String × Toml.Value)) → List Datum
  | [] => []
  | last :: earlier => Toml.Value.toTables earlier ++ [.table (Toml.Value.toMembers last)]

end

/-- Variables of the environment with their values. -/
abbrev Environment := List (String × String)

namespace Environment

/-- The home directory. An empty variable names none. -/
def home? (environment : Environment) : Option String :=
  (environment.lookup "HOME").filter (· ≠ "")

/-- The directory for settings: the one that is named, if its path is absolute, or the usual one below the
home directory. -/
def settingsDirectory? (environment : Environment) : Option String :=
  match (environment.lookup "XDG_CONFIG_HOME").filter Path.isAbsolute with
  | some directory => some directory
  | none => environment.home?.map (Path.join · ".config")

end Environment

namespace Settings

def fileName : String := "dant.toml"

def parse (text : String) : Except SettingsError Settings :=
  match Toml.document? text with
  | none => .error .malformed
  | some members =>
    match ofDatum? false (.table (Toml.Value.toMembers members)) with
    | none => .error .malformed
    | some settings => settings.validate

def load (tree : FileTree) (path : String) : Except SettingsError Settings :=
  match tree.readText path with
  | .ok text => parse text
  | .error cause => .error (.unreadable path cause)

/-- Where a settings file is looked for, in this order. -/
def searchPaths (environment : Environment) : List String :=
  let below (directory : String) := Path.join (Path.join directory "dant") fileName
  [fileName] ++
    (environment.home?.map fun home => below (Path.join home ".config")).toList ++
    (environment.settingsDirectory?.map below).toList

/-- The settings of a run: those in the file asked for, or else in the first file found, or the
defaults. -/
def find (tree : FileTree) (environment : Environment) (asked : Option String) :
    Except SettingsError Settings :=
  match asked with
  | some path => load tree path
  | none =>
    match (searchPaths environment).find? tree.isFile with
    | some path => load tree path
    | none => .ok {}

end Settings

end DataLexer
