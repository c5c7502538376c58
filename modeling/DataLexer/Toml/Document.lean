import DataLexer.Toml.Number
import DataLexer.Toml.Table

namespace DataLexer.Toml

/-- The levels of arrays and tables in braces, and the parts of a key, are fewer than this. -/
def nestingBound : Nat := 80

mutual

/-- A value, with at most `depth` levels of arrays and tables in braces. -/
def value? (depth : Nat) (text : List Char) : Option (Value × List Char) :=
  match text with
  | '"' :: _ | '\'' :: _ => (string? text).map fun (string, rest) => (.string string, rest)
  | 't' :: 'r' :: 'u' :: 'e' :: rest => some (.boolean true, rest)
  | 'f' :: 'a' :: 'l' :: 's' :: 'e' :: rest => some (.boolean false, rest)
  | '[' :: rest =>
    match depth with
    | 0 => none
    | depth + 1 => do
      let (items, rest) ← items? depth rest.length rest
      return (.array items, rest)
  | '{' :: rest =>
    match depth with
    | 0 => none
    | depth + 1 => do
      match skipTabs rest with
      | '}' :: rest => return (.table .inline [], rest)
      | rest =>
        let (members, rest) ← members? depth rest.length [] rest
        return (.table .inline members, rest)
  | text => (dateTime? text).orElse fun _ => number? text
termination_by (depth, 0)

/-- The items of an array from some place on, and its end. There are at most `budget` of them. -/
def items? (depth budget : Nat) (text : List Char) : Option (List Value × List Char) := do
  match ← skipGap? false text with
  | ']' :: rest => return ([], rest)
  | text =>
    match budget with
    | 0 => none
    | budget + 1 =>
      let (item, rest) ← value? depth text
      match ← skipGap? false rest with
      | ',' :: rest =>
        let (items, rest) ← items? depth budget rest
        return (item :: items, rest)
      | ']' :: rest => return ([item], rest)
      | _ => none
termination_by (depth, budget + 1)

/-- The members of a table in braces from some place on, added to those before, and its end. There are at
most `budget` more of them. -/
def members? (depth budget : Nat) (before : Members) (text : List Char) : Option (Members × List Char) := do
  match budget with
  | 0 => none
  | budget + 1 =>
    let (path, rest) ← keyPath? (nestingBound - 1) text
    match rest with
    | '=' :: rest =>
      let (value, rest) ← value? depth (skipTabs rest)
      let members ← insert path value .inline before
      match skipTabs rest with
      | ',' :: rest => members? depth budget members rest
      | '}' :: rest => return (members, rest)
      | _ => none
    | _ => none
termination_by (depth, budget + 1)

end

/-- The members of a document, and the header that the next keys belong to. -/
structure State where
  members : Members := []
  header : List String := []

namespace State

/-- Adds a key with its value below the current header. -/
def insert? (state : State) (path : List String) (value : Value) : Option State := do
  let members ← update false (Toml.insert path value) state.header .header state.members
  return { state with members }

/-- Reads a header or a key with its value. -/
def line? (state : State) (text : List Char) : Option (State × List Char) :=
  match text with
  | '[' :: '[' :: rest => do
    let (path, rest) ← keyPath? (nestingBound - 1) rest
    match rest with
    | ']' :: ']' :: rest => return (⟨← addElement path state.members, path⟩, rest)
    | _ => none
  | '[' :: rest => do
    let (path, rest) ← keyPath? (nestingBound - 1) rest
    match rest with
    | ']' :: rest => return (⟨← addTable path state.members, path⟩, rest)
    | _ => none
  | text => do
    let (path, rest) ← keyPath? (nestingBound - 1) text
    match rest with
    | '=' :: rest =>
      let (value, rest) ← value? (nestingBound - 1) (skipTabs rest)
      return (← state.insert? path value, rest)
    | _ => none

/-- Reads at most `budget` lines, which have to be all. -/
def lines? (state : State) : (budget : Nat) → List Char → Option Members
  | budget, text =>
    match skipTabs text with
    | [] => some state.members
    | rest =>
      match budget with
      | 0 => none
      | budget + 1 =>
        match lineEnd? rest with
        | some rest => state.lines? budget rest
        | none => do
          let (state, rest) ← state.line? rest
          state.lines? budget (← lineEnd? rest)

end State

/-- The top-level table of a document. A byte order mark may stand before it. -/
def document? (text : String) : Option Members :=
  let text := match text.toList with
    | '\uFEFF' :: rest => rest
    | text => text
  State.lines? {} (text.length + 1) text

end DataLexer.Toml
