import DataLexer.Toml.Value

namespace DataLexer.Toml

def Members.find? (members : Members) (key : String) : Option Value := members.lookup key

def Members.replace (members : Members) (key : String) (value : Value) : Members :=
  members.map fun (other, old) => if other = key then (other, value) else (other, old)

/-- Changes the table that a path leads to, and makes the tables on the way that are missing. Dotted keys
may lead through tables made by dotted keys or implied by headers, headers through all tables but
those in braces; the last table of an array stands for the array. -/
def update (byDots : Bool) (change : Origin → Members → Option Members) :
    List String → Origin → Members → Option Members
  | [], origin, members => change origin members
  | key :: path, _, members =>
    match members.find? key with
    | none => do
      let origin := if byDots then .dotted else .implied
      let inner ← update byDots change path origin []
      return members ++ [(key, .table origin inner)]
    | some (.table origin inner) =>
      if origin = .inline ∨ (byDots ∧ origin = .header) then none
      else (update byDots change path origin inner).map fun inner =>
        members.replace key (.table origin inner)
    | some (.tables (last :: earlier)) =>
      (update byDots change path .header last).map fun last =>
        members.replace key (.tables (last :: earlier))
    | some _ => none

/-- Adds a key with its value. The table that its dots lead to must be one that dots have made. -/
def insert (path : List String) (value : Value) (origin : Origin) (members : Members) :
    Option Members :=
  let tables := path.dropLast
  let add (origin : Origin) (members : Members) : Option Members := do
    let key ← path.getLast?
    if (origin == .dotted) = tables.isEmpty || (members.find? key).isSome then none
    else return members ++ [(key, value)]
  update true add tables origin members

/-- Adds the table of a header. It may be there already if a longer header has implied it. -/
def addTable (path : List String) (members : Members) : Option Members :=
  let add (_ : Origin) (members : Members) : Option Members := do
    let key ← path.getLast?
    match members.find? key with
    | none => return members ++ [(key, .table .header [])]
    | some (.table .implied inner) => return members.replace key (.table .header inner)
    | some _ => none
  update false add path.dropLast .header members

/-- Adds one more table to the array of a header in double brackets. -/
def addElement (path : List String) (members : Members) : Option Members :=
  let add (_ : Origin) (members : Members) : Option Members := do
    let key ← path.getLast?
    match members.find? key with
    | none => return members ++ [(key, .tables [[]])]
    | some (.tables elements) => return members.replace key (.tables ([] :: elements))
    | some _ => none
  update false add path.dropLast .header members

end DataLexer.Toml
