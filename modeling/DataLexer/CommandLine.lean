import DataLexer.Command
import DataLexer.SettingsFile

namespace DataLexer

inductive CommandOption where
  | verbose
  | config
  | noColor
  | version
  | format
  | includeEof
  | jobs
  | failFast
deriving DecidableEq

namespace CommandOption

/-- The name behind two hyphens. -/
def longName : CommandOption → String
  | verbose => "verbose"
  | config => "config"
  | noColor => "no-color"
  | version => "version"
  | format => "format"
  | includeEof => "include-eof"
  | jobs => "jobs"
  | failFast => "fail-fast"

/-- The letter behind one hyphen. -/
def letter? : CommandOption → Option Char
  | verbose => some 'v'
  | config => some 'c'
  | version => some 'V'
  | format => some 'F'
  | jobs => some 'j'
  | _ => none

/-- The variable that can stand for an option. -/
def variableName? : CommandOption → Option String
  | verbose => some "DANT_VERBOSE"
  | config => some "DANT_CONFIG"
  | noColor => some "DANT_NO_COLOR"
  | _ => none

def takesValue : CommandOption → Bool
  | config | format | jobs => true
  | _ => false

/-- The options of every command. -/
def everywhere : List CommandOption := [verbose, config, noColor, version]

end CommandOption

/-- A whole number with an optional sign. -/
def readInteger? (text : String) : Option Int :=
  let (negative, digits) := match text.toList with
    | '-' :: rest => (true, rest)
    | '+' :: rest => (false, rest)
    | rest => (false, rest)
  if digits.isEmpty || !digits.all Char.isDigit then none
  else
    let value : Nat := digits.foldl (fun sum c => 10 * sum + (c.toNat - '0'.toNat)) 0
    some (if negative then -value else value)

/-- A number of jobs, from 1 to 65535. -/
def readJobs? (text : String) : Option Nat := do
  let value ← readInteger? text
  guard (1 ≤ value ∧ value ≤ 65535)
  return value.toNat

/-- An option takes a value: a path is not empty, a number of jobs is in its range, and a switch is on or
off. -/
def CommandOption.accepts (option : CommandOption) (value : String) : Bool :=
  match option with
  | .config => value ≠ ""
  | .jobs => (readJobs? value).isSome
  | .format => true
  | _ => value = "true" || value = "false"

inductive CommandName where
  | tokens
  | check
  | highlight
  | language
deriving DecidableEq

namespace CommandName

def text : CommandName → String
  | tokens => "tokens"
  | check => "check"
  | highlight => "highlight"
  | language => "language"

def ofText? (text : String) : Option CommandName :=
  [tokens, check, highlight, language].find? (·.text = text)

def options : CommandName → List CommandOption
  | tokens => [.format, .includeEof]
  | check => [.jobs, .failFast, .format]
  | highlight => []
  | language => [.format]

/-- The number of operands that a command takes at most; `none` is any number. -/
def operandLimit? : CommandName → Option Nat
  | tokens | highlight => some 1
  | check => none
  | language => some 0

end CommandName

/-- Why the arguments lead to no command: they break the rules, or they ask for the version, perhaps that
of a command. -/
inductive ArgumentStop where
  | misuse
  | version (command : Option CommandName)
deriving DecidableEq

/-- What has been given on one side of the command's name. `late` is an option whose value has been read
but not been looked at. -/
structure Given where
  values : List (CommandOption × String) := []
  operands : List String := []
  late : Option (CommandOption × String) := none

namespace Given

/-- Adds an option with its value, which has to be its first. -/
def add (given : Given) (option : CommandOption) (value : String) : Except ArgumentStop Given :=
  if (given.values.lookup option).isSome || !option.accepts value then .error .misuse
  else .ok { given with values := given.values ++ [(option, value)] }

/-- Looks at the value that was left. -/
def settle (given : Given) : Except ArgumentStop Given :=
  match given.late with
  | some (option, value) => { given with late := none }.add option value
  | none => .ok given

end Given

/-- One side of the command's name: which options it has and whose version they show. -/
structure Side where
  command : Option CommandName

namespace Side

def options (side : Side) : List CommandOption :=
  CommandOption.everywhere ++ match side.command with
    | some command => command.options
    | none => []

/-- An option without a value. -/
def switch (side : Side) (given : Given) (option : CommandOption) : Except ArgumentStop Given :=
  if option = .version then .error (.version side.command) else given.add option "true"

/-- The letters behind one hyphen. The last option may want a value: what follows its letter, with or
without an equals sign before it, or the next argument, and then the option is given back. -/
def letters (side : Side) (given : Given) :
    List Char → Except ArgumentStop (Given × Option CommandOption)
  | [] => .ok (given, none)
  | c :: rest =>
    match side.options.find? (·.letter? = some c) with
    | none => .error .misuse
    | some option =>
      if option.takesValue then
        match rest with
        | [] => .ok (given, some option)
        | '=' :: value => do return (← given.add option (String.ofList value), none)
        | value => do return (← given.add option (String.ofList value), none)
      else do side.letters (← side.switch given option) rest

/-- The name behind two hyphens, with its value behind an equals sign. -/
def long (side : Side) (given : Given) (text : List Char) :
    Except ArgumentStop (Given × Option CommandOption) :=
  let name := String.ofList (text.takeWhile (· != '='))
  match side.options.find? (·.longName = name), text.dropWhile (· != '=') with
  | none, _ => .error .misuse
  | some option, [] =>
    if option.takesValue then .ok (given, some option)
    else do return (← side.switch given option, none)
  | some option, _ :: value =>
    if option.takesValue then do return (← given.add option (String.ofList value), none)
    else .error .misuse

/-- An operand, which is a path. -/
def operand (side : Side) (given : Given) (text : String) : Except ArgumentStop Given :=
  match side.command with
  | none => .error .misuse
  | some command =>
    let full := match command.operandLimit? with
      | some limit => decide (limit ≤ given.operands.length)
      | none => false
    if full || text = "" then .error .misuse
    else .ok { given with operands := given.operands ++ [text] }

/-- Reads the arguments on one side. Before the command's name it gives that name and the arguments behind
it; the value of an option just before the name is left for later. -/
def read (side : Side) (given : Given) (wanted : Option CommandOption) :
    List String → Except ArgumentStop (Given × Option (CommandName × List String))
  | [] =>
    match wanted with
    | some _ => .error .misuse
    | none => do return (← given.settle, none)
  | argument :: rest =>
    match argument.toList, wanted with
    | '-' :: _ :: _, some _ => .error .misuse
    | _, some option => side.read { given with late := some (option, argument) } none rest
    | ['-', '-'], none => do
      let given ← given.settle
      return (← rest.foldlM side.operand given, none)
    | '-' :: '-' :: text, none => do
      let given ← given.settle
      let (given, wanted) ← side.long given text
      side.read given wanted rest
    | '-' :: letter :: text, none => do
      let given ← given.settle
      let (given, wanted) ← side.letters given (letter :: text)
      side.read given wanted rest
    | _, none =>
      match side.command, CommandName.ofText? argument with
      | none, some name => .ok (given, some (name, rest))
      | _, _ => do
        let given ← given.settle
        side.read (← side.operand given argument) none rest

end Side

/-- What the program is asked to do. -/
structure Invocation where
  verbose : Bool
  config : Option String
  noColor : Bool
  command : Command
deriving DecidableEq

namespace Invocation

/-- The variables that stand for options not given on one side have values that the options take. -/
def checkVariables (environment : Environment) (given : Given) : Except ArgumentStop Unit :=
  CommandOption.everywhere.forM fun option =>
    match option.variableName?.bind fun name => environment.lookup name with
    | some value =>
      if (given.values.lookup option).isSome || option.accepts value then .ok ()
      else .error .misuse
    | none => .ok ()

/-- The value of an option for every command: the one given last, or else its variable's. -/
def valueOf (environment : Environment) (before after : Given) (option : CommandOption) : Option String :=
  (after.values.lookup option).orElse fun _ =>
    (before.values.lookup option).orElse fun _ =>
      option.variableName?.bind fun name => environment.lookup name

/-- The command that its name, options and operands give. -/
def command? (name : CommandName) (given : Given) : Option Command :=
  let format := given.values.lookup .format
  let isOn (option : CommandOption) : Bool := (given.values.lookup option).isSome
  match name, given.operands with
  | .tokens, [path] => some (.tokens { path, format, includeEof := isOn .includeEof })
  | .check, path :: paths =>
    some (.check {
      paths := path :: paths
      jobs := (given.values.lookup .jobs).bind readJobs?
      failFast := isOn .failFast
      format })
  | .highlight, [path] => some (.highlight path)
  | .language, [] => some (.language format)
  | _, _ => none

/-- What arguments and environment ask for. -/
def ofArguments (environment : Environment) (arguments : List String) :
    Except ArgumentStop Invocation := do
  match ← Side.read ⟨none⟩ {} none arguments with
  | (_, none) => throw .misuse
  | (before, some (name, rest)) =>
    let (after, _) ← Side.read ⟨some name⟩ {} none rest
    checkVariables environment after
    match command? name after with
    | none => throw .misuse
    | some command =>
      let before ← before.settle
      checkVariables environment before
      let value := valueOf environment before after
      return {
        verbose := value .verbose = some "true"
        config := value .config
        noColor := value .noColor = some "true"
        command }

end Invocation

end DataLexer
