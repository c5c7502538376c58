namespace DataLexer.Toml

/-- What made a table: a header of its own, a longer header that leads through it, dotted keys, or braces.
Later headers and dotted keys may add to some of them only. -/
inductive Origin where
  | header
  | implied
  | dotted
  | inline
deriving DecidableEq

/-- A value. `tables` is an array of tables made by headers, last table first. Floats and date-times are
checked when they are read and keep their text. -/
inductive Value where
  | string (text : String)
  | integer (value : Int)
  | float (text : String)
  | boolean (value : Bool)
  | dateTime (text : String)
  | array (items : List Value)
  | table (origin : Origin) (members : List (String × Value))
  | tables (elements : List (List (String × Value)))

abbrev Members := List (String × Value)

end DataLexer.Toml
