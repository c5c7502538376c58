namespace DataLexer.Toml

def isTab (c : Char) : Bool := c = ' ' || c = '\t'

def skipTabs (text : List Char) : List Char := text.dropWhile isTab

/-- A character beyond ASCII may stand wherever a printable one may. -/
def isWide (c : Char) : Bool := 0x80 ≤ c.toNat

def isBetween (first last : Nat) (c : Char) : Bool := first ≤ c.toNat && c.toNat ≤ last

def isCommentChar (c : Char) : Bool := c = '\t' || isBetween 0x20 0x7E c || isWide c

/-- The text behind a line end, if there is one here. -/
def newline? : List Char → Option (List Char)
  | '\n' :: rest => some rest
  | '\r' :: '\n' :: rest => some rest
  | _ => none

/-- The text behind the end of a line, which may hold blanks and a comment before. -/
def lineEnd? (text : List Char) : Option (List Char) :=
  let rest := match skipTabs text with
    | '#' :: rest => rest.dropWhile isCommentChar
    | rest => rest
  match rest with
  | [] => some []
  | rest => newline? rest

/-- The text behind blanks, line ends and comments. -/
def skipGap? (inComment : Bool) : List Char → Option (List Char)
  | [] => some []
  | '\n' :: rest => skipGap? false rest
  | '\r' :: '\n' :: rest => skipGap? false rest
  | c :: rest =>
    if inComment then if isCommentChar c then skipGap? true rest else none
    else if isTab c then skipGap? false rest
    else if c = '#' then skipGap? true rest
    else some (c :: rest)

def hexDigit? (c : Char) : Option Nat :=
  if c.isDigit then some (c.toNat - '0'.toNat)
  else if isBetween 'a'.toNat 'f'.toNat c then some (c.toNat - 'a'.toNat + 10)
  else if isBetween 'A'.toNat 'F'.toNat c then some (c.toNat - 'A'.toNat + 10)
  else none

/-- The character with a code point given in hexadecimal; surrogates have none. -/
def codePoint? (digits : List Char) : Option Char := do
  let values ← digits.mapM hexDigit?
  let value := values.foldl (fun sum digit => 16 * sum + digit) 0
  if value.isValidChar then some (Char.ofNat value) else none

/-- The character that a letter behind a backslash stands for. -/
def shortEscape? : Char → Option Char
  | 'b' => some '\x08'
  | 't' => some '\t'
  | 'n' => some '\n'
  | 'f' => some '\x0c'
  | 'r' => some '\r'
  | '"' => some '"'
  | '\\' => some '\\'
  | _ => none

/-- What stands for itself between double quotes. -/
def isBasicChar (c : Char) : Bool :=
  c = '\t' || (isBetween 0x20 0x7E c && c != '"' && c != '\\') || isWide c

/-- What stands for itself between single quotes. -/
def isLiteralChar (c : Char) : Bool :=
  c = '\t' || (isBetween 0x20 0x7E c && c != '\'') || isWide c

/-- A character before what a reader gives: what it read and the text behind that, or `none` where the
document is refused. -/
def withChar (c : Char) : Option (List Char × List Char) → Option (List Char × List Char)
  | some (text, rest) => some (c :: text, rest)
  | none => none

/-- A string in double quotes, from behind the first of them. -/
def basicString? : List Char → Option (List Char × List Char)
  | '"' :: rest => some ([], rest)
  | '\\' :: 'u' :: a :: b :: c :: d :: rest =>
    (codePoint? [a, b, c, d]).bind fun x => withChar x (basicString? rest)
  | '\\' :: 'U' :: a :: b :: c :: d :: e :: f :: g :: h :: rest =>
    (codePoint? [a, b, c, d, e, f, g, h]).bind fun x => withChar x (basicString? rest)
  | '\\' :: c :: rest => (shortEscape? c).bind fun x => withChar x (basicString? rest)
  | c :: rest => if isBasicChar c then withChar c (basicString? rest) else none
  | [] => none

/-- A backslash before this text ends the line: only blanks are left on it. -/
def endsLine (text : List Char) : Bool := (newline? (skipTabs text)).isSome

/-- A string in three double quotes, from behind the first three. One or two quotes may stand before the
last three. A backslash at the end of a line takes the blanks and line ends behind it away, which is
what happens while `skipping`. -/
def longBasicString? (skipping : Bool) : List Char → Option (List Char × List Char)
  | '"' :: '"' :: '"' :: '"' :: '"' :: rest => some (['"', '"'], rest)
  | '"' :: '"' :: '"' :: '"' :: rest => some (['"'], rest)
  | '"' :: '"' :: '"' :: rest => some ([], rest)
  | '"' :: rest => withChar '"' (longBasicString? false rest)
  | '\n' :: rest =>
    if skipping then longBasicString? true rest else withChar '\n' (longBasicString? false rest)
  | '\r' :: '\n' :: rest =>
    if skipping then longBasicString? true rest else withChar '\n' (longBasicString? false rest)
  | '\\' :: 'u' :: a :: b :: c :: d :: rest =>
    (codePoint? [a, b, c, d]).bind fun x => withChar x (longBasicString? false rest)
  | '\\' :: 'U' :: a :: b :: c :: d :: e :: f :: g :: h :: rest =>
    (codePoint? [a, b, c, d, e, f, g, h]).bind fun x => withChar x (longBasicString? false rest)
  | '\\' :: c :: rest =>
    if endsLine (c :: rest) then longBasicString? true (c :: rest)
    else (shortEscape? c).bind fun x => withChar x (longBasicString? false rest)
  | c :: rest =>
    if skipping && isTab c then longBasicString? true rest
    else if isBasicChar c then withChar c (longBasicString? false rest)
    else none
  | [] => none

/-- A string in single quotes, from behind the first of them. -/
def literalString? : List Char → Option (List Char × List Char)
  | '\'' :: rest => some ([], rest)
  | c :: rest => if isLiteralChar c then withChar c (literalString? rest) else none
  | [] => none

/-- A string in three single quotes, from behind the first three. One or two quotes may stand before the
last three. -/
def longLiteralString? : List Char → Option (List Char × List Char)
  | '\'' :: '\'' :: '\'' :: '\'' :: '\'' :: rest => some (['\'', '\''], rest)
  | '\'' :: '\'' :: '\'' :: '\'' :: rest => some (['\''], rest)
  | '\'' :: '\'' :: '\'' :: rest => some ([], rest)
  | '\'' :: rest => withChar '\'' (longLiteralString? rest)
  | '\n' :: rest => withChar '\n' (longLiteralString? rest)
  | '\r' :: '\n' :: rest => withChar '\n' (longLiteralString? rest)
  | c :: rest => if isLiteralChar c then withChar c (longLiteralString? rest) else none
  | [] => none

/-- The text behind a line end at the start of a long string. -/
def skipNewline (text : List Char) : List Char := (newline? text).getD text

/-- A string of any of the four kinds. -/
def string? : List Char → Option (String × List Char)
  | '"' :: '"' :: '"' :: rest => (longBasicString? false (skipNewline rest)).map toString
  | '"' :: rest => (basicString? rest).map toString
  | '\'' :: '\'' :: '\'' :: rest => (longLiteralString? (skipNewline rest)).map toString
  | '\'' :: rest => (literalString? rest).map toString
  | _ => none
where
  toString : List Char × List Char → String × List Char := fun (text, rest) => (String.ofList text, rest)

def isBareKeyChar (c : Char) : Bool := c.isAlphanum || c = '-' || c = '_'

def simpleKey? : List Char → Option (String × List Char)
  | '"' :: rest => (basicString? rest).map fun (text, rest) => (String.ofList text, rest)
  | '\'' :: rest => (literalString? rest).map fun (text, rest) => (String.ofList text, rest)
  | text =>
    match text.takeWhile isBareKeyChar with
    | [] => none
    | key => some (String.ofList key, text.dropWhile isBareKeyChar)

/-- A key of at most `limit` parts with dots between them. -/
def keyPath? : (limit : Nat) → List Char → Option (List String × List Char)
  | 0, _ => none
  | limit + 1, text => do
    let (key, rest) ← simpleKey? (skipTabs text)
    match skipTabs rest with
    | '.' :: rest =>
      let (keys, rest) ← keyPath? limit rest
      return (key :: keys, rest)
    | rest => return ([key], rest)

end DataLexer.Toml
