import DataLexer.Toml.Text
import DataLexer.Toml.Value

namespace DataLexer.Toml

/-- Digits with single underscores between them, from behind the first digit. -/
def moreDigits (isDigit : Char → Bool) : List Char → List Char × List Char
  | '_' :: c :: rest =>
    if isDigit c then
      let (digits, rest) := moreDigits isDigit rest
      (c :: digits, rest)
    else ([], '_' :: c :: rest)
  | c :: rest =>
    if isDigit c then
      let (digits, rest) := moreDigits isDigit rest
      (c :: digits, rest)
    else ([], c :: rest)
  | [] => ([], [])

/-- Digits with single underscores between them. -/
def digits? (isDigit : Char → Bool) : List Char → Option (List Char × List Char)
  | c :: rest =>
    if isDigit c then
      let (digits, rest) := moreDigits isDigit rest
      some (c :: digits, rest)
    else none
  | [] => none

def valueOf (base : Nat) (digits : List Char) : Nat :=
  digits.foldl (fun sum c => base * sum + (hexDigit? c).getD 0) 0

/-- A whole number without a sign: zero, or digits that start with another one. -/
def wholeDigits? : List Char → Option (List Char × List Char)
  | '0' :: rest => some (['0'], rest)
  | text => digits? Char.isDigit text

/-- A number that fits 64 bits with a sign. -/
def integer? (value : Int) : Option Value :=
  if Int64.minValue.toInt ≤ value ∧ value ≤ Int64.maxValue.toInt then some (.integer value) else none

/-- Half a step above the greatest finite float of 64 bits: what reaches it is rounded to infinity. -/
def floatBound : Nat := (1 <<< 54 - 1) <<< 970

/-- A decimal number, given by its digits and the power of ten they are taken with, is too great for a
float of 64 bits. -/
def overflows (digits : List Char) (exponent : Int) : Bool :=
  let significant := digits.dropWhile (· = '0')
  let magnitude := significant.length + exponent
  if significant.isEmpty || magnitude ≤ 308 then false
  else if 309 < magnitude then true
  else
    let value := valueOf 10 significant
    floatBound * Nat.pow 10 (-exponent).toNat ≤ value * Nat.pow 10 exponent.toNat

def sign (text : List Char) : Bool × List Char :=
  match text with
  | '-' :: rest => (true, rest)
  | '+' :: rest => (false, rest)
  | rest => (false, rest)

def fraction? : List Char → Option (List Char × List Char)
  | '.' :: rest => digits? Char.isDigit rest
  | _ => none

/-- The power of ten behind an `e`. -/
def exponent? : List Char → Option (Int × List Char)
  | c :: rest =>
    if c = 'e' || c = 'E' then do
      let (negative, rest) := sign rest
      let (digits, rest) ← digits? Char.isDigit rest
      let value := valueOf 10 digits
      return (if negative then -(value : Int) else value, rest)
    else none
  | [] => none

/-- A number to base 16, 8 or 2, from behind its first two characters. -/
def based? (base : Nat) (text : List Char) : Option (Value × List Char) := do
  let isDigit (c : Char) := match hexDigit? c with
    | some digit => decide (digit < base)
    | none => false
  let (digits, rest) ← digits? isDigit text
  return (← integer? (valueOf base digits), rest)

/-- A whole number or a float in decimal. Only a float too great to be finite is refused. -/
def decimal? (text : List Char) : Option (Value × List Char) := do
  let (negative, rest) := sign text
  let (whole, rest) ← wholeDigits? rest
  let (places, rest, pointed) := match fraction? rest with
    | some (places, rest) => (places, rest, true)
    | none => ([], rest, false)
  let (power, rest, raised) := match exponent? rest with
    | some (power, rest) => (power, rest, true)
    | none => (0, rest, false)
  if pointed || raised then
    if !negative && overflows (whole ++ places) (power - places.length) then none
    else some (.float (String.ofList (text.take (text.length - rest.length))), rest)
  else
    let value : Int := valueOf 10 whole
    return (← integer? (if negative then -value else value), rest)

def number? (text : List Char) : Option (Value × List Char) :=
  match text with
  | '0' :: 'x' :: rest => based? 16 rest
  | '0' :: 'o' :: rest => based? 8 rest
  | '0' :: 'b' :: rest => based? 2 rest
  | text =>
    match (sign text).2 with
    | 'i' :: 'n' :: 'f' :: rest => some (.float "inf", rest)
    | 'n' :: 'a' :: 'n' :: rest => some (.float "nan", rest)
    | _ => decimal? text

def twoDigits? (first last : Nat) : List Char → Option (Nat × List Char)
  | a :: b :: rest =>
    if a.isDigit && b.isDigit then
      let value := valueOf 10 [a, b]
      if first ≤ value ∧ value ≤ last then some (value, rest) else none
    else none
  | _ => none

/-- The text behind a character, if that is here. -/
def expect? (c : Char) : List Char → Option (List Char)
  | d :: rest => if c = d then some rest else none
  | [] => none

def isLeapYear (year : Nat) : Bool := year % 4 = 0 && (year % 100 ≠ 0 || year % 400 = 0)

def daysIn (year month : Nat) : Nat :=
  if month = 2 then if isLeapYear year then 29 else 28
  else if month = 4 ∨ month = 6 ∨ month = 9 ∨ month = 11 then 30
  else 31

/-- The text behind a date that the calendar knows. -/
def date? : List Char → Option (List Char)
  | a :: b :: c :: d :: '-' :: rest => do
    guard ([a, b, c, d].all Char.isDigit)
    let (month, rest) ← twoDigits? 1 12 rest
    let (day, rest) ← twoDigits? 1 31 (← expect? '-' rest)
    guard (day ≤ daysIn (valueOf 10 [a, b, c, d]) month)
    return rest
  | _ => none

/-- The text behind a time, which may hold a leap second and parts of a second. -/
def time? (text : List Char) : Option (List Char) := do
  let (_, rest) ← twoDigits? 0 23 text
  let (_, rest) ← twoDigits? 0 59 (← expect? ':' rest)
  let (_, rest) ← twoDigits? 0 60 (← expect? ':' rest)
  match rest with
  | '.' :: c :: more =>
    return if c.isDigit then more.dropWhile Char.isDigit else rest
  | _ => return rest

/-- The text behind the distance from universal time; nothing is skipped if none is here. -/
def offset? (text : List Char) : Option (List Char) :=
  match text with
  | [] => some []
  | c :: rest =>
    if c = 'Z' || c = 'z' then some rest
    else if c = '+' || c = '-' then do
      let (_, rest) ← twoDigits? 0 23 rest
      let (_, rest) ← twoDigits? 0 59 (← expect? ':' rest)
      return rest
    else some text

/-- The text behind a date, which a time may follow, or behind a time. -/
def dateTimeEnd? (text : List Char) : Option (List Char) :=
  match date? text with
  | some rest =>
    match rest with
    | c :: more =>
      if c = 'T' || c = 't' || c = ' ' then
        match time? more with
        | some rest => offset? rest
        | none => some rest
      else some rest
    | [] => some []
  | none => time? text

/-- A date, a time or both. -/
def dateTime? (text : List Char) : Option (Value × List Char) := do
  let rest ← dateTimeEnd? text
  return (.dateTime (String.ofList (text.take (text.length - rest.length))), rest)

end DataLexer.Toml
