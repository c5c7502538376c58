import DataLexer.CommandLine

namespace DataLexer

/-- How a run ends. -/
structure Outcome where
  exit : Nat
  stdout : String := ""
  stderr : String := ""
deriving DecidableEq

namespace Outcome

/-- The end of a run that prints something. A lexical error has been shown already; every other failure
is told in one line. -/
def ofPrinted (printed : Printed) : Outcome :=
  let told := match printed.failure with
    | none | some (.lexical ..) => ""
    | some failure => s!"error: {failure.message}\n"
  { exit := if printed.failure.isSome then 1 else 0
    stdout := printed.output
    stderr := printed.errors ++ told }

end Outcome

namespace Program

def name : String := "dant"

def version : String := "0.1.0"

/-- The line that tells the version of the program or of one of its commands. -/
def versionLine (command : Option CommandName) : String :=
  match command with
  | none => s!"{name} {version}\n"
  | some command => s!"{name}-{command.text} {version}\n"

/-- Colour is for a terminal, unless an option or the settings turn it off. -/
def usesColor (terminal : Bool) (invocation : Invocation) (settings : Settings) : Bool :=
  terminal && !invocation.noColor && settings.output.color

/-- Does what was asked for, with the settings that go with it. -/
def perform (tree : FileTree) (environment : Environment) (terminal : Bool) (invocation : Invocation) :
    Printed :=
  match Settings.find tree environment invocation.config with
  | .error cause => .failed (.settings cause)
  | .ok settings => invocation.command.run tree settings (usesColor terminal invocation settings)

/-- A run of the program. Arguments that break the rules end it with exit code 2. -/
def run (tree : FileTree) (environment : Environment) (terminal : Bool) (arguments : List String) :
    Outcome :=
  match Invocation.ofArguments environment arguments with
  | .error .misuse => { exit := 2 }
  | .error (.version command) => { exit := 0, stdout := versionLine command }
  | .ok invocation => .ofPrinted (perform tree environment terminal invocation)

end Program

end DataLexer
