namespace DataLexer

def repeated (count : Nat) (c : Char) : String := String.ofList (List.replicate count c)

def spaces (width : Nat) : String := repeated width ' '

/-- A text at the right end of a field; a longer text stays whole. -/
def alignRight (width : Nat) (text : String) (fill : Char := ' ') : String :=
  repeated (width - text.length) fill ++ text

/-- A text at the left end of a field; a longer text stays whole. -/
def alignLeft (width : Nat) (text : String) : String :=
  text ++ spaces (width - text.length)

end DataLexer
