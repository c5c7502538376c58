import DataLexer.Settings

namespace DataLexer

/-- Text for people, JSON for programs. -/
inductive OutputFormat where
  | text
  | json
deriving DecidableEq

namespace OutputFormat

def name : OutputFormat → String
  | text => "text"
  | json => "json"

/-- The format with a given name, in capitals or not. The case of ASCII letters is enough: no other
character has one of the letters of these names for its small letter. -/
def ofName? (name : String) : Option OutputFormat :=
  let small := name.toLower
  if small = "text" ∨ small = "txt" then some text
  else if small = "json" then some json
  else none

/-- The format asked for, or else the one in the settings. -/
def choose (asked : Option String) (settings : OutputSettings) : Except RequestError OutputFormat :=
  let name := asked.getD settings.format
  match ofName? name with
  | some format => .ok format
  | none => .error (.unknownFormat name)

end OutputFormat

end DataLexer
