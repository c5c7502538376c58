import DataLexer.Proofs.ReadBack
import DataLexer.Toml.Text

namespace DataLexer.Json

/-- What may stand between the parts of a value. -/
def isSpace (c : Char) : Bool := c = ' ' || c = '\n' || c = '\r' || c = '\t'

def skipSpace (text : List Char) : List Char := text.dropWhile isSpace

/-- The character that a letter behind a backslash stands for. -/
def unescape? : Char → Option Char
  | '/' => some '/'
  | letter => Toml.shortEscape? letter

/-- Reads a string from behind its first quote on. -/
def readString? : List Char → Option (List Char × List Char)
  | '"' :: rest => some ([], rest)
  | '\\' :: 'u' :: a :: b :: c :: d :: rest =>
    (Toml.codePoint? [a, b, c, d]).bind fun x => Toml.withChar x (readString? rest)
  | '\\' :: letter :: rest => (unescape? letter).bind fun x => Toml.withChar x (readString? rest)
  | c :: rest => if c.toNat < 0x20 then none else Toml.withChar c (readString? rest)
  | [] => none

section Sequence

variable {α : Type} (item : List Char → Option (α × List Char)) (close : Char)

/-- Reads items with commas between them, one at least and `fuel` at most, and the bracket behind them. -/
def readItems? : Nat → List Char → Option (List α × List Char)
  | 0, _ => none
  | fuel + 1, text =>
    (item text).bind fun (first, behind) =>
      match skipSpace behind with
      | ',' :: rest => (readItems? fuel rest).map fun (more, behind) => (first :: more, behind)
      | c :: rest => if c = close then some ([first], rest) else none
      | [] => none

/-- Reads what stands between brackets, from behind the first one on. -/
def readBracketed? (text : List Char) : Option (List α × List Char) :=
  match skipSpace text with
  | c :: rest => if c = close then some ([], rest) else readItems? item close text.length text
  | [] => none

end Sequence

/-- Reads a member of an object, its value by the given reader. -/
def readMember? (value : List Char → Option (Json × List Char)) (text : List Char) :
    Option ((String × Json) × List Char) :=
  match skipSpace text with
  | '"' :: rest =>
    (readString? rest).bind fun (key, behind) =>
      match skipSpace behind with
      | ':' :: rest => (value rest).map fun (part, behind) => ((String.ofList key, part), behind)
      | _ => none
  | _ => none

/-- Reads a value that is nested no deeper than `fuel`. Numbers are natural. -/
def readValue? : Nat → List Char → Option (Json × List Char)
  | 0, _ => none
  | fuel + 1, text =>
    match skipSpace text with
    | 'n' :: 'u' :: 'l' :: 'l' :: rest => some (null, rest)
    | '"' :: rest => (readString? rest).map fun (text, behind) => (string (String.ofList text), behind)
    | '[' :: rest =>
      (readBracketed? (readValue? fuel) ']' rest).map fun (items, behind) => (array items, behind)
    | '\x7b' :: rest =>
      (readBracketed? (readMember? (readValue? fuel)) '\x7d' rest).map fun (members, behind) =>
        (object members, behind)
    | c :: rest =>
      if c.isDigit then
        let (value, behind) := readNumber (c :: rest)
        some (number value, behind)
      else none
    | [] => none

/-- Reads a text that is one value. -/
def read? (text : String) : Option Json :=
  match readValue? text.length text.toList with
  | some (value, rest) => if rest.all isSpace then some value else none
  | none => none

/-- What holds of the parts of every value holds of every value. -/
theorem inductionOn {P : Json → Prop} (value : Json) (null : P .null) (number : ∀ n, P (.number n))
    (string : ∀ text, P (.string text)) (array : ∀ items, (∀ item ∈ items, P item) → P (.array items))
    (object : ∀ members, (∀ member ∈ members, P member.2) → P (.object members)) : P value :=
  @Json.rec P (fun items => ∀ item ∈ items, P item) (fun members => ∀ member ∈ members, P member.2)
    (fun member => P member.2) null number string array object
    (List.forall_mem_nil _) (fun _ _ first more => List.forall_mem_cons.mpr ⟨first, more⟩)
    (List.forall_mem_nil _) (fun _ _ first more => List.forall_mem_cons.mpr ⟨first, more⟩)
    (fun _ _ part => part) value

/-- A line feed and the indent of a level. -/
def gap (level : Nat) : List Char := '\n' :: List.replicate (2 * level) ' '

/-- The printed form of a value that stands at the given level. -/
def chars (level : Nat) (value : Json) : List Char := (value.pieces level).flatMap String.toList

/-- The printed form of a member that stands at the given level. -/
def memberChars (level : Nat) (member : String × Json) : List Char :=
  (quote member.1).toList ++ ':' :: ' ' :: member.2.chars level

/-- Items in their written form, each behind the same blank text, with commas between them. -/
def spread {α : Type} (lead : List Char) (write : α → List Char) (first : α) (more : List α) : List Char :=
  lead ++ write first ++ more.flatMap fun item => ',' :: (lead ++ write item)

theorem toList_newLine (level : Nat) : (newLine level).toList = gap level := String.toList_ofList

theorem itemPieces_chars (level : Nat) (items : List Json) :
    (itemPieces level items).flatMap String.toList =
      items.flatMap fun item => ',' :: (gap level ++ item.chars level) := by
  have comma : (",").toList = [','] := by decide
  induction items with
  | nil => rfl
  | cons item items ih =>
    simp only [itemPieces, chars, List.flatMap_cons, List.flatMap_append, ih, toList_newLine, comma,
      List.append_assoc, List.cons_append, List.nil_append]

theorem memberPieces_chars (level : Nat) (members : List (String × Json)) :
    (memberPieces level members).flatMap String.toList =
      members.flatMap fun member => ',' :: (gap level ++ memberChars level member) := by
  have comma : (",").toList = [','] := by decide
  have colon : (": ").toList = [':', ' '] := by decide
  induction members with
  | nil => rfl
  | cons member members ih =>
    simp only [memberPieces, memberChars, chars, List.flatMap_cons, List.flatMap_append, ih,
      toList_newLine, comma, colon, List.append_assoc, List.cons_append, List.nil_append]

theorem chars_array (level : Nat) (first : Json) (more : List Json) : chars level (array (first :: more)) =
    '[' :: (spread (gap (level + 1)) (chars (level + 1)) first more ++ gap level ++ [']']) := by
  have opening : ("[").toList = ['['] := by decide
  have closing : ("]").toList = [']'] := by decide
  unfold chars
  simp only [pieces, List.flatMap_cons, List.flatMap_append, List.flatMap_nil, itemPieces_chars,
    toList_newLine, opening, closing, spread, chars, List.append_assoc, List.cons_append, List.nil_append]

theorem chars_object (level : Nat) (first : String × Json) (more : List (String × Json)) :
    chars level (object (first :: more)) =
      '\x7b' :: (spread (gap (level + 1)) (memberChars (level + 1)) first more ++ gap level ++ ['\x7d']) := by
  have opening : ("\x7b").toList = ['\x7b'] := by decide
  have closing : ("\x7d").toList = ['\x7d'] := by decide
  have colon : (": ").toList = [':', ' '] := by decide
  unfold chars
  simp only [pieces, List.flatMap_cons, List.flatMap_append, List.flatMap_nil, memberPieces_chars,
    toList_newLine, opening, closing, colon, spread, memberChars, chars, List.append_assoc,
    List.cons_append, List.nil_append]

theorem codePoint?_control {c : Char} (control : c.toNat < 0x20) : Toml.codePoint?
    ['0', '0', Nat.digitChar (c.toNat / 16), Nat.digitChar (c.toNat % 16)] = some c := by
  have each : ∀ n < 0x20, Toml.codePoint? ['0', '0', Nat.digitChar (n / 16), Nat.digitChar (n % 16)] =
      some (Char.ofNat n) := by decide
  rw [each _ control, Char.ofNat_toNat]

theorem readString?_escape (c : Char) (rest : List Char) :
    readString? (escape c ++ rest) = Toml.withChar c (readString? rest) := by
  unfold escape
  split
  case h_8 quote backslash _ _ _ _ _ =>
    split
    next control =>
      simp only [List.cons_append, List.nil_append, readString?, codePoint?_control control]
      rfl
    next plain =>
      rw [List.singleton_append, readString?, if_neg plain]
      all_goals simp_all
  all_goals rfl

theorem readString?_quoted (text rest : List Char) :
    readString? (text.flatMap escape ++ '"' :: rest) = some (text, rest) := by
  induction text with
  | nil => rfl
  | cons c text ih => rw [List.flatMap_cons, List.append_assoc, readString?_escape, ih]; rfl

theorem skipSpace_of_solid {c : Char} (solid : isSpace c = false) (text : List Char) :
    skipSpace (c :: text) = c :: text := List.dropWhile_cons_of_neg (by simp [solid])

/-- The text does not go on with a digit. -/
def EndsNumber (rest : List Char) : Prop := ∀ c, rest.head? = some c → c.isDigit = false

theorem endsNumber_cons {c : Char} {rest : List Char} (other : c.isDigit = false) : EndsNumber (c :: rest) := by
  rintro _ ⟨⟩
  exact other

theorem isSpace_of_mem_gap {level : Nat} {c : Char} (member : c ∈ gap level) : isSpace c = true := by
  rcases List.mem_cons.mp member with rfl | indent
  · rfl
  · rw [List.eq_of_mem_replicate indent]
    rfl

theorem skipSpace_gap (level : Nat) (text : List Char) : skipSpace (gap level ++ text) = skipSpace text :=
  List.dropWhile_append_of_pos fun _ member => isSpace_of_mem_gap member

section Sequence

variable {α : Type} {item : List Char → Option (α × List Char)} {write : α → List Char} {close : Char}
  {level : Nat} {first : α} {more : List α}

theorem length_le_spread (lead : List Char) (write : α → List Char) {a : α} (member : a ∈ first :: more) :
    (write a).length ≤ (spread lead write first more).length := by
  unfold spread
  rcases List.mem_cons.mp member with rfl | later
  · simp only [List.length_append]
    omega
  · have part := (List.sublist_flatten_of_mem
      (List.mem_map_of_mem (f := fun item => ',' :: (lead ++ write item)) later)).length_le
    simp only [List.flatMap_def, List.length_append, List.length_cons] at part ⊢
    omega

theorem length_lt_spread (written : write first ≠ []) (lead : List Char) (more : List α) :
    more.length < (spread lead write first more).length := by
  have wide := List.length_pos_of_ne_nil written
  have commas : more.length ≤ (more.flatMap fun item => ',' :: (lead ++ write item)).length := by
    induction more with
    | nil => exact Nat.le_refl 0
    | cons next more ih =>
      simp only [List.flatMap_cons, List.length_append, List.length_cons]
      omega
  simp only [spread, List.length_append]
  omega

/-- Items that can be read one by one can be read in a row, up to the closing bracket. -/
theorem readItems?_spread (closing : close = ']' ∨ close = '\x7d') {fuel : Nat} (enough : more.length < fuel)
    (reads : ∀ a ∈ first :: more, ∀ rest, EndsNumber rest →
      item (gap (level + 1) ++ write a ++ rest) = some (a, rest)) (rest : List Char) :
    readItems? item close fuel (spread (gap (level + 1)) write first more ++ (gap level ++ close :: rest)) =
      some (first :: more, rest) := by
  have solid : isSpace close = false := by rcases closing with rfl | rfl <;> rfl
  induction more generalizing fuel first with
  | nil =>
    obtain ⟨fuel, rfl⟩ := Nat.exists_eq_add_one_of_ne_zero (Nat.ne_zero_of_lt enough)
    have feed : EndsNumber (gap level ++ close :: rest) := endsNumber_cons (by decide)
    have read := reads first List.mem_cons_self _ feed
    unfold spread
    rw [List.flatMap_nil, List.append_nil, readItems?, read]
    rcases closing with rfl | rfl <;> simp [skipSpace_gap, skipSpace_of_solid solid]
  | cons next more ih =>
    obtain ⟨fuel, rfl⟩ := Nat.exists_eq_add_one_of_ne_zero (Nat.ne_zero_of_lt enough)
    have comma : isSpace ',' = false := rfl
    have split : (spread (gap (level + 1)) write first (next :: more) ++ (gap level ++ close :: rest)) =
        gap (level + 1) ++ write first ++
          ',' :: (spread (gap (level + 1)) write next more ++ (gap level ++ close :: rest)) := by
      simp [spread]
    have read := reads first List.mem_cons_self
      (',' :: (spread (gap (level + 1)) write next more ++ (gap level ++ close :: rest)))
      (endsNumber_cons (by decide))
    have others := ih (Nat.lt_of_succ_lt_succ enough) fun a member => reads a (List.mem_cons_of_mem _ member)
    rw [split, readItems?, read]
    simp [skipSpace_of_solid comma, others]

theorem readBracketed?_spread (closing : close = ']' ∨ close = '\x7d')
    {c : Char} {tail : List Char} (begins : write first = c :: tail) (solid : isSpace c = false)
    (inside : c ≠ close)
    (reads : ∀ a ∈ first :: more, ∀ rest, EndsNumber rest →
      item (gap (level + 1) ++ write a ++ rest) = some (a, rest)) (rest : List Char) :
    readBracketed? item close (spread (gap (level + 1)) write first more ++ (gap level ++ close :: rest)) =
      some (first :: more, rest) := by
  have skipped : ∃ after, skipSpace (spread (gap (level + 1)) write first more ++
      (gap level ++ close :: rest)) = c :: after := by
    simp only [spread, List.append_assoc, skipSpace_gap, begins, List.cons_append, skipSpace_of_solid solid]
    exact ⟨_, rfl⟩
  obtain ⟨after, skipped⟩ := skipped
  have enough : more.length <
      (spread (gap (level + 1)) write first more ++ (gap level ++ close :: rest)).length := by
    have room := length_lt_spread (by simp [begins] : write first ≠ []) (gap (level + 1)) more
    rw [List.length_append]
    omega
  unfold readBracketed?
  rw [skipped]
  dsimp only
  rw [if_neg inside, readItems?_spread closing enough reads]

end Sequence

theorem chars_number (level n : Nat) : chars level (number n) = Nat.toDigits 10 n := by
  simp [chars, pieces, Nat.toString_eq_repr, Nat.toList_repr]

theorem toList_quote (text : String) : (quote text).toList = '"' :: (text.toList.flatMap escape ++ ['"']) :=
  String.toList_ofList

theorem chars_string (level : Nat) (text : String) :
    chars level (string text) = '"' :: (text.toList.flatMap escape ++ ['"']) := by
  simp [chars, pieces, toList_quote]

theorem chars_array_nil (level : Nat) : chars level (array []) = ['[', ']'] := by
  have brackets : ("[]").toList = ['[', ']'] := by decide
  simp [chars, pieces, brackets]

theorem chars_object_nil (level : Nat) : chars level (object []) = ['\x7b', '\x7d'] := by
  have brackets : ("\x7b\x7d").toList = ['\x7b', '\x7d'] := by decide
  simp [chars, pieces, brackets]

theorem ne_of_isDigit {c d : Char} (digit : c.isDigit = true) (other : d.isDigit = false) : c ≠ d := by
  rintro rfl
  rw [digit] at other
  exact absurd other (by decide)

theorem isSpace_of_isDigit {c : Char} (digit : c.isDigit = true) : isSpace c = false := by
  have blank := ne_of_isDigit digit (by decide : ' '.isDigit = false)
  have feed := ne_of_isDigit digit (by decide : '\n'.isDigit = false)
  have returned := ne_of_isDigit digit (by decide : '\r'.isDigit = false)
  have tab := ne_of_isDigit digit (by decide : '\t'.isDigit = false)
  simp [isSpace, blank, feed, returned, tab]

theorem exists_digit (n : Nat) : ∃ c rest, Nat.toDigits 10 n = c :: rest ∧ c.isDigit = true := by
  obtain ⟨c, rest, digits⟩ := List.exists_cons_of_ne_nil (Nat.toDigits_ne_nil (n := n) (b := 10))
  have member : c ∈ Nat.toDigits 10 n := digits ▸ List.mem_cons_self
  exact ⟨c, rest, digits, Nat.isDigit_of_mem_toDigits (by decide) (by decide) member⟩

/-- A value begins with a character that is neither space nor a closing bracket. -/
theorem exists_chars (level : Nat) (value : Json) :
    ∃ c rest, value.chars level = c :: rest ∧ isSpace c = false ∧ c ≠ ']' := by
  match value with
  | null => exact ⟨'n', _, rfl, rfl, by decide⟩
  | number n =>
    obtain ⟨c, rest, digits, digit⟩ := exists_digit n
    exact ⟨c, rest, by rw [chars_number, digits], isSpace_of_isDigit digit, ne_of_isDigit digit (by decide)⟩
  | string text => exact ⟨'"', _, chars_string level text, rfl, by decide⟩
  | array [] => exact ⟨'[', _, chars_array_nil level, rfl, by decide⟩
  | array (first :: more) => exact ⟨'[', _, chars_array level first more, rfl, by decide⟩
  | object [] => exact ⟨'\x7b', _, chars_object_nil level, rfl, by decide⟩
  | object (first :: more) => exact ⟨'\x7b', _, chars_object level first more, rfl, by decide⟩

theorem skipSpace_chars (level : Nat) (value : Json) (rest : List Char) :
    skipSpace (value.chars level ++ rest) = value.chars level ++ rest := by
  obtain ⟨c, more, written, solid, _⟩ := value.exists_chars level
  rw [written, List.cons_append, skipSpace_of_solid solid]

theorem readValue?_of_skipSpace (fuel : Nat) {text other : List Char} (same : skipSpace text = skipSpace other) :
    readValue? fuel text = readValue? fuel other := by
  cases fuel with
  | zero => rfl
  | succ fuel => rw [readValue?, readValue?, same]

/-- The value can be read from its printed form, whatever text follows, when the depth is bounded by the
length of that form. -/
def Reads (value : Json) : Prop := ∀ level fuel rest, (value.chars level).length ≤ fuel →
  EndsNumber rest → readValue? fuel (value.chars level ++ rest) = some (value, rest)

theorem reads_of_step {value : Json} (step : ∀ level fuel rest, (value.chars level).length ≤ fuel + 1 →
    EndsNumber rest → readValue? (fuel + 1) (value.chars level ++ rest) = some (value, rest)) :
    Reads value := by
  intro level fuel rest enough ends
  obtain ⟨c, more, written, _⟩ := value.exists_chars level
  have positive : 0 < (value.chars level).length := by simp [written]
  obtain ⟨fuel, rfl⟩ := Nat.exists_eq_add_one_of_ne_zero (by omega : fuel ≠ 0)
  exact step level fuel rest enough ends

theorem reads_null : Reads null := by
  refine reads_of_step fun level fuel rest _ _ => ?_
  rw [readValue?, skipSpace_chars]
  rfl

theorem reads_number (n : Nat) : Reads (number n) := by
  refine reads_of_step fun level fuel rest _ ends => ?_
  obtain ⟨c, more, digits, digit⟩ := exists_digit n
  have read := readNumber_toDigits n ends
  rw [readValue?, skipSpace_chars, chars_number]
  rw [digits, List.cons_append] at read ⊢
  split
  case h_5 same =>
    obtain ⟨rfl, rfl⟩ := List.cons.inj same
    rw [if_pos digit, read]
  case h_6 none => exact absurd none (List.cons_ne_nil _ _)
  all_goals
    rename_i same
    obtain ⟨rfl, _⟩ := List.cons.inj same
    exact absurd digit (by decide)

theorem reads_string (text : String) : Reads (string text) := by
  refine reads_of_step fun level fuel rest _ _ => ?_
  rw [readValue?, skipSpace_chars, chars_string]
  simp [readString?_quoted]

theorem Reads.member {member : String × Json} (value : Reads member.2) {level fuel : Nat} {rest : List Char}
    (enough : (member.2.chars level).length ≤ fuel) (ends : EndsNumber rest) :
    readMember? (readValue? fuel) (gap level ++ memberChars level member ++ rest) = some (member, rest) := by
  have quote : isSpace '"' = false := rfl
  have colon : isSpace ':' = false := rfl
  have read : readValue? fuel (' ' :: (member.2.chars level ++ rest)) = some (member.2, rest) := by
    rw [← value level fuel rest enough ends]
    exact readValue?_of_skipSpace fuel rfl
  unfold readMember? memberChars
  rw [List.append_assoc, skipSpace_gap, toList_quote]
  simp [skipSpace_of_solid quote, skipSpace_of_solid colon, readString?_quoted, read]

-- the brackets take two characters, so every part is shorter than the whole and the next depth is enough for it
theorem reads_array {items : List Json} (each : ∀ item ∈ items, Reads item) : Reads (array items) := by
  refine reads_of_step fun level fuel rest enough _ => ?_
  rw [readValue?, skipSpace_chars]
  cases items with
  | nil =>
    rw [chars_array_nil]
    rfl
  | cons first more =>
    obtain ⟨c, tail, begins, solid, inside⟩ := first.exists_chars (level + 1)
    have parts : ∀ item ∈ first :: more, ∀ rest, EndsNumber rest →
        readValue? fuel (gap (level + 1) ++ item.chars (level + 1) ++ rest) = some (item, rest) := by
      intro item member rest ends
      have part := length_le_spread (gap (level + 1)) (chars (level + 1)) member
      rw [chars_array] at enough
      simp only [List.length_cons, List.length_append] at enough
      rw [← each item member (level + 1) fuel rest (by omega) ends, List.append_assoc]
      exact readValue?_of_skipSpace fuel (skipSpace_gap _ _)
    have read := readBracketed?_spread (Or.inl rfl) begins solid inside parts rest
    rw [chars_array]
    simp [read]

theorem reads_object {members : List (String × Json)} (each : ∀ member ∈ members, Reads member.2) :
    Reads (object members) := by
  refine reads_of_step fun level fuel rest enough _ => ?_
  rw [readValue?, skipSpace_chars]
  cases members with
  | nil =>
    rw [chars_object_nil]
    rfl
  | cons first more =>
    have begins : memberChars (level + 1) first = '"' :: (first.1.toList.flatMap escape ++
        '"' :: ':' :: ' ' :: first.2.chars (level + 1)) := by
      simp [memberChars, toList_quote]
    have parts : ∀ member ∈ first :: more, ∀ rest, EndsNumber rest →
        readMember? (readValue? fuel) (gap (level + 1) ++ memberChars (level + 1) member ++ rest) =
          some (member, rest) := by
      intro member mem rest ends
      refine (each member mem).member ?_ ends
      have part := length_le_spread (gap (level + 1)) (memberChars (level + 1)) mem
      rw [chars_object] at enough
      simp only [List.length_cons, List.length_append, memberChars] at enough part
      omega
    have read := readBracketed?_spread (Or.inr rfl) begins rfl (by decide) parts rest
    rw [chars_object]
    simp [read]

theorem reads (value : Json) : Reads value := by
  induction value using inductionOn with
  | null => exact reads_null
  | number n => exact reads_number n
  | string text => exact reads_string text
  | array items ih => exact reads_array ih
  | object members ih => exact reads_object ih

/-- A printed value is read back. -/
theorem read?_print (value : Json) : read? value.print = some value := by
  have feed : ("\n").toList = ['\n'] := by decide
  have text : value.print.toList = value.chars 0 ++ ['\n'] := by
    rw [print, String.toList_append, String.toList_join, feed]
    rfl
  have enough : (value.chars 0).length ≤ value.print.length := by
    rw [← String.length_toList, text, List.length_append]
    exact Nat.le_add_right _ _
  unfold read?
  rw [text, reads value 0 _ _ enough (endsNumber_cons (by decide))]
  rfl

-- other blank text is passed as well, but no comma goes without an item behind it
example : (read? " [1,2 ]").isSome = true ∧ (read? "[1,]").isNone = true := by decide

end DataLexer.Json

namespace DataLexer

/-- The printed array has one item for each token, in order, with all that is told of the token. -/
theorem read?_jsonTokens (tokens : List Token) :
    Json.read? (jsonTokens tokens) = some (.array (tokens.map (·.toJson))) := Json.read?_print _

end DataLexer
