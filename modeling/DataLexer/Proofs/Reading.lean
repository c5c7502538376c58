import DataLexer.Lexeme

namespace DataLexer

theorem inRanges_eq_false_of_apart {ranges others : List (Nat × Nat)} {c : Char}
    (apart : ∀ r ∈ ranges, ∀ s ∈ others, r.2 < s.1 ∨ s.2 < r.1) (inside : inRanges others c = true) :
    inRanges ranges c = false := by
  simp only [inRanges, List.any_eq_true, Bool.and_eq_true, decide_eq_true_eq] at inside
  obtain ⟨s, other, lower, upper⟩ := inside
  simp only [inRanges, List.any_eq_false, Bool.and_eq_true, decide_eq_true_eq]
  intro r member within
  have order := apart r member s other
  omega

theorem isAlpha_eq_inRanges (c : Char) : c.isAlpha = inRanges [(0x41, 0x5A), (0x61, 0x7A)] c := by
  have upper : c.isUpper = (decide (0x41 ≤ c.toNat) && decide (c.toNat ≤ 0x5A)) := Bool.decide_and ..
  have lower : c.isLower = (decide (0x61 ≤ c.toNat) && decide (c.toNat ≤ 0x7A)) := rfl
  have alpha : c.isAlpha = (c.isUpper || c.isLower) := rfl
  have ranges : inRanges [(0x41, 0x5A), (0x61, 0x7A)] c =
      (decide (0x41 ≤ c.toNat) && decide (c.toNat ≤ 0x5A) ||
        (decide (0x61 ≤ c.toNat) && decide (c.toNat ≤ 0x7A) || false)) := rfl
  rw [alpha, upper, lower, ranges, Bool.or_false]

theorem isDigit_eq_inRanges (c : Char) : c.isDigit = inRanges [(0x30, 0x39)] c :=
  (Bool.or_false _).symm

theorem isDigit_of_isBlank {c : Char} (blank : isBlank c = true) : c.isDigit = false := by
  rw [isDigit_eq_inRanges]
  exact inRanges_eq_false_of_apart (by decide) blank

theorem isNameChar_of_isBlank {c : Char} (blank : isBlank c = true) : isNameChar c = false := by
  have ascii : c.isAlpha = false := by
    rw [isAlpha_eq_inRanges]
    exact inRanges_eq_false_of_apart (by decide) blank
  have letters : inRanges alphabeticRanges c = false :=
    inRanges_eq_false_of_apart (by decide +kernel) blank
  have numerals : inRanges numeralRanges c = false :=
    inRanges_eq_false_of_apart (by decide +kernel) blank
  have dash : c ≠ '-' := fun same => absurd blank (by rw [same]; decide)
  have underscore : c ≠ '_' := fun same => absurd blank (by rw [same]; decide)
  simp [isNameChar, isAlphanumeric, isAlphabetic, isNumeral, ascii, letters, numerals, dash,
    underscore, isDigit_of_isBlank blank]

theorem isDigit_of_isNameStart {c : Char} (start : isNameStart c = true) : c.isDigit = false := by
  cases digit : c.isDigit with
  | false => rfl
  | true =>
    rw [isDigit_eq_inRanges] at digit
    have small : c.toNat < 0x80 := by
      simp [inRanges] at digit
      omega
    have letter : c.isAlpha = false := by
      rw [isAlpha_eq_inRanges]
      exact inRanges_eq_false_of_apart (by decide) digit
    have underscore : c ≠ '_' := fun same => absurd digit (by rw [same]; decide)
    simp [isNameStart, isAlphabetic, small, letter, underscore] at start

/-- The lexeme of a form that starts with `c` goes on with `tail` when `rest` is behind `c`. -/
def Form.Spells (c : Char) (rest tail : List Char) : Form → Prop
  | .comment => Reading.startsComment c rest = true ∧ tail = Reading.commentTail rest
  | .string => c = '"' ∧ Reading.stringTail rest = (tail, true)
  | .number => Reading.startsNumber c rest = true ∧ tail = Reading.numberTail rest
  | .name => isNameStart c = true ∧ tail = rest.takeWhile isNameChar
  | .colon => c = ':' ∧ tail = []
  | .comma => c = ',' ∧ tail = []
  | .opening delimiter => c = delimiter.openChar ∧ tail = []
  | .closing delimiter => c = delimiter.closeChar ∧ tail = []

namespace Reading

theorem ofOpen?_eq_some {c : Char} {delimiter : Delimiter} (found : Delimiter.ofOpen? c = some delimiter) :
    c = delimiter.openChar := by
  have same := List.find?_some found
  exact (of_decide_eq_true same).symm

theorem ofClose?_eq_some {c : Char} {delimiter : Delimiter} (found : Delimiter.ofClose? c = some delimiter) :
    c = delimiter.closeChar := by
  have same := List.find?_some found
  exact (of_decide_eq_true same).symm

/-- The forms overlap in no text, so the order in which they are tried is no part of the grammar. -/
theorem ofText_eq_lexeme_iff {c : Char} {rest tail : List Char} {form : Form} :
    ofText c rest = .lexeme form tail ↔ form.Spells c rest tail := by
  constructor
  · intro reading
    unfold ofText at reading
    split at reading
    · rename_i comment
      cases reading
      exact ⟨comment, rfl⟩
    split at reading
    · rename_i quote
      split at reading
      · rename_i closed
        cases reading
        exact ⟨quote, closed⟩
      · cases reading
    split at reading
    · rename_i colon
      cases reading
      exact ⟨colon, rfl⟩
    split at reading
    · rename_i comma
      cases reading
      exact ⟨comma, rfl⟩
    split at reading
    · rename_i number
      cases reading
      exact ⟨number, rfl⟩
    split at reading
    · rename_i name
      cases reading
      exact ⟨name, rfl⟩
    split at reading
    · rename_i found
      cases reading
      exact ⟨ofOpen?_eq_some found, rfl⟩
    · rename_i found
      cases reading
      exact ⟨ofClose?_eq_some found, rfl⟩
    · cases reading
  · intro spells
    cases form with
    | comment =>
      obtain ⟨starts, rfl⟩ := spells
      simp [ofText, starts]
    | string =>
      obtain ⟨rfl, closed⟩ := spells
      simp [ofText, startsComment, closed]
    | number =>
      obtain ⟨starts, rfl⟩ := spells
      have sharp : c ≠ '#' ∧ c ≠ '/' ∧ c ≠ '"' ∧ c ≠ ':' ∧ c ≠ ',' := by
        refine ⟨?_, ?_, ?_, ?_, ?_⟩ <;> rintro rfl <;> simp [startsNumber] at starts
      simp [ofText, startsComment, starts, sharp]
    | name =>
      obtain ⟨starts, rfl⟩ := spells
      have sharp : c ≠ '#' ∧ c ≠ '/' ∧ c ≠ '"' ∧ c ≠ ':' ∧ c ≠ ',' ∧ c ≠ '-' := by
        refine ⟨?_, ?_, ?_, ?_, ?_, ?_⟩ <;> rintro rfl <;> revert starts <;> decide
      simp [ofText, startsComment, startsNumber, isDigit_of_isNameStart starts, starts, sharp]
    | colon =>
      obtain ⟨rfl, rfl⟩ := spells
      simp [ofText, startsComment]
    | comma =>
      obtain ⟨rfl, rfl⟩ := spells
      simp [ofText, startsComment]
    | opening delimiter =>
      obtain ⟨rfl, rfl⟩ := spells
      cases delimiter <;> rfl
    | closing delimiter =>
      obtain ⟨rfl, rfl⟩ := spells
      cases delimiter <;> rfl

theorem ofText_eq_unterminated {c : Char} {rest tail : List Char}
    (reading : ofText c rest = .unterminated tail) : c = '"' ∧ stringTail rest = (tail, false) := by
  unfold ofText at reading
  split at reading
  · cases reading
  split at reading
  · rename_i quote
    split at reading
    · cases reading
    · rename_i opened
      cases reading
      exact ⟨quote, opened⟩
  · grind

/-- A line ends here: with the text, with a line feed, or with carriage return and line feed. -/
inductive LineEnd : List Char → Prop
  | text : LineEnd []
  | feed {rest} : LineEnd ('\n' :: rest)
  | returned {rest} : LineEnd ('\r' :: '\n' :: rest)

theorem LineEnd.feed_mem {text : List Char} (ended : LineEnd text)
    (more : text.dropWhile isBlank ≠ []) : '\n' ∈ text.takeWhile isBlank := by
  have feed : isBlank '\n' = true := by decide
  have returned : isBlank '\r' = true := by decide
  cases ended with
  | text => exact absurd rfl more
  | feed => simp [feed]
  | returned => simp [feed, returned]

theorem commentTail_append (rest : List Char) :
    ∃ after, rest = commentTail rest ++ after ∧ LineEnd after := by
  fun_induction commentTail rest with
  | case1 => exact ⟨[], rfl, .text⟩
  | case2 rest => exact ⟨'\n' :: rest, rfl, .feed⟩
  | case3 rest => exact ⟨'\r' :: '\n' :: rest, rfl, .returned⟩
  | case4 c rest _ _ ih =>
    obtain ⟨after, same, ended⟩ := ih
    exact ⟨after, by rw [List.cons_append, ← same], ended⟩

theorem stringTail_append (rest : List Char) : ∃ after, rest = (stringTail rest).1 ++ after := by
  fun_induction stringTail rest with
  | case1 => exact ⟨[], rfl⟩
  | case2 rest => exact ⟨rest, rfl⟩
  | case3 rest => exact ⟨'\n' :: rest, rfl⟩
  | case4 rest => exact ⟨'\r' :: '\n' :: rest, rfl⟩
  | case5 => exact ⟨[], rfl⟩
  | case6 rest => exact ⟨'\n' :: rest, rfl⟩
  | case7 c rest _ tail closed read ih =>
    obtain ⟨after, same⟩ := ih
    rw [read] at same
    exact ⟨after, by rw [same]; rfl⟩
  | case8 c rest _ _ _ _ _ _ tail closed read ih =>
    obtain ⟨after, same⟩ := ih
    rw [read] at same
    exact ⟨after, by rw [same]; rfl⟩

theorem numberTail_append (rest : List Char) : ∃ after, rest = numberTail rest ++ after := by
  fun_induction numberTail rest with
  | case1 => exact ⟨[], rfl⟩
  | case2 c rest _ ih =>
    obtain ⟨after, same⟩ := ih
    exact ⟨after, by rw [List.cons_append, ← same]⟩
  | case3 c rest => exact ⟨c :: rest, rfl⟩

end Reading

/-- A text begins with one lexeme. -/
theorem Form.Spells.unique {c : Char} {rest tail other : List Char} {form second : Form}
    (spells : form.Spells c rest tail) (again : second.Spells c rest other) :
    form = second ∧ tail = other := by
  have reading := Reading.ofText_eq_lexeme_iff.mpr spells
  rw [Reading.ofText_eq_lexeme_iff.mpr again] at reading
  cases reading
  exact ⟨rfl, rfl⟩

theorem Form.Spells.ne_mark {c : Char} {rest tail : List Char} {form : Form}
    (spells : form.Spells c rest tail) : c ≠ '\uFEFF' := by
  rintro rfl
  cases form with
  | comment => exact absurd spells.1 (by simp [Reading.startsComment])
  | number => exact absurd spells.1 (by simp [Reading.startsNumber])
  | name => exact absurd spells.1 (by decide +kernel)
  | opening delimiter | closing delimiter => cases delimiter <;> exact absurd spells.1 (by decide)
  | string | colon | comma => exact absurd spells.1 (by decide)

theorem Form.Spells.startsComment_iff {c : Char} {rest tail : List Char} {form : Form}
    (spells : form.Spells c rest tail) : Reading.startsComment c rest = true ↔ form = .comment := by
  constructor
  · intro starts
    have comment : Form.comment.Spells c rest (Reading.commentTail rest) := ⟨starts, rfl⟩
    exact (spells.unique comment).1
  · rintro rfl
    exact spells.1

theorem Form.Spells.colon_iff {c : Char} {rest tail : List Char} {form : Form}
    (spells : form.Spells c rest tail) : c = ':' ↔ form = .colon := by
  constructor
  · intro same
    have colon : Form.colon.Spells c rest [] := ⟨same, rfl⟩
    exact (spells.unique colon).1
  · rintro rfl
    exact spells.1

/-- Every lexeme is a first part of the text. -/
theorem Form.Spells.append {c : Char} {rest tail : List Char} {form : Form}
    (spells : form.Spells c rest tail) : ∃ after, rest = tail ++ after := by
  cases form with
  | comment =>
    obtain ⟨_, rfl⟩ := spells
    obtain ⟨after, same, _⟩ := Reading.commentTail_append rest
    exact ⟨after, same⟩
  | string =>
    obtain ⟨after, same⟩ := Reading.stringTail_append rest
    rw [spells.2] at same
    exact ⟨after, same⟩
  | number =>
    obtain ⟨_, rfl⟩ := spells
    exact Reading.numberTail_append rest
  | name =>
    obtain ⟨_, rfl⟩ := spells
    exact ⟨rest.dropWhile isNameChar, List.takeWhile_append_dropWhile.symm⟩
  | colon | comma | opening | closing =>
    obtain ⟨_, rfl⟩ := spells
    exact ⟨rest, rfl⟩

namespace Reading

theorem stringTail_cons {c : Char} {rest : List Char} (quote : c ≠ '"') (feed : c ≠ '\n')
    (escape : c ≠ '\\') (returned : c = '\r' → rest.head? ≠ some '\n') :
    stringTail (c :: rest) = (c :: (stringTail rest).1, (stringTail rest).2) := by
  rw [stringTail.eq_8 _ _ quote feed _ (fun same => absurd same escape)
    (fun _ same => absurd same escape) (fun _ _ same => absurd same escape)]
  rintro tail same rfl
  exact returned same rfl

/-- A character that takes nothing behind it is no backslash. -/
theorem ne_backslash {c : Char} {rest : List Char} (alone : c = '\\' → rest = [] → False)
    (takes : ∀ d more, c = '\\' → rest = d :: more → False) : c ≠ '\\' := by
  rintro rfl
  cases rest with
  | nil => exact alone rfl rfl
  | cons d more => exact takes d more rfl rfl

theorem stringTail_head {rest tail : List Char} (closed : stringTail rest = (tail, true)) :
    ∃ c more, tail = c :: more ∧ c ≠ '\n' := by
  fun_cases stringTail rest with
  | case1 | case3 | case4 | case5 | case6 => simp [stringTail] at closed
  | case2 rest =>
    obtain ⟨rfl, _⟩ := Prod.mk.inj closed
    exact ⟨'"', [], rfl, by decide⟩
  | case7 c rest noFeed body shut read =>
    rw [stringTail.eq_7 _ _ noFeed, read] at closed
    obtain ⟨rfl, _⟩ := Prod.mk.inj closed
    exact ⟨'\\', c :: body, rfl, by decide⟩
  | case8 c rest quote feed returned alone escaped escape body shut read =>
    rw [stringTail.eq_8 _ _ quote feed returned alone escaped escape, read] at closed
    obtain ⟨rfl, _⟩ := Prod.mk.inj closed
    exact ⟨c, body, rfl, feed⟩

/-- What a string holds does not hang on the text behind its closing quote. -/
theorem stringTail_of_closed {rest tail : List Char} (closed : stringTail rest = (tail, true))
    (after : List Char) : stringTail (tail ++ after) = (tail, true) := by
  fun_induction stringTail rest generalizing tail with
  | case1 | case3 | case4 | case5 | case6 => simp at closed
  | case2 rest =>
    obtain ⟨rfl, _⟩ := Prod.mk.inj closed
    rfl
  | case7 c rest noFeed body shut read ih =>
    obtain ⟨rfl, rfl⟩ := Prod.mk.inj closed
    rw [List.cons_append, List.cons_append, stringTail.eq_7 _ _ noFeed, ih read]
  | case8 c rest quote feed returned alone escaped escape body shut read ih =>
    obtain ⟨rfl, rfl⟩ := Prod.mk.inj closed
    obtain ⟨d, more, rfl, inner⟩ := stringTail_head read
    rw [List.cons_append, stringTail_cons quote feed (ne_backslash alone escape) (by simpa using fun _ => inner), ih read]

theorem commentTail_no_feed (rest : List Char) : '\n' ∉ commentTail rest := by
  fun_induction commentTail rest with
  | case1 | case2 | case3 => simp
  | case4 c rest feed returned ih =>
    rintro (_ | ⟨_, inside⟩)
    · exact feed rfl
    · exact ih inside

theorem commentTail_of_no_feed {text : List Char} (plain : '\n' ∉ text) : commentTail text = text := by
  induction text with
  | nil => rfl
  | cons c text ih =>
    obtain ⟨first, rest⟩ := not_or.mp (mt List.mem_cons.mpr plain)
    rw [commentTail.eq_4 _ _ (fun same => first same.symm), ih rest]
    rintro tail _ rfl
    exact rest (List.mem_cons_self ..)

/-- Behind a comment set before a line feed, the carriage return that ended it belongs to the end of
the line. -/
theorem commentTail_append_feed {text : List Char} (plain : '\n' ∉ text) (rest : List Char) :
    ∃ returned, (returned = [] ∨ returned = ['\r']) ∧
      text = commentTail (text ++ '\n' :: rest) ++ returned := by
  induction text with
  | nil => exact ⟨[], Or.inl rfl, rfl⟩
  | cons c text ih =>
    obtain ⟨first, inner⟩ := not_or.mp (mt List.mem_cons.mpr plain)
    obtain ⟨returned, form, same⟩ := ih inner
    by_cases last : c = '\r' ∧ text = []
    · obtain ⟨rfl, rfl⟩ := last
      exact ⟨['\r'], Or.inr rfl, rfl⟩
    · refine ⟨returned, form, ?_⟩
      rw [List.cons_append, commentTail.eq_4 _ _ (fun same => first same.symm), List.cons_append, ← same]
      rintro tail rfl feed
      cases text with
      | nil => exact last ⟨rfl, rfl⟩
      | cons d text =>
        obtain ⟨rfl, _⟩ := List.cons.inj feed
        exact inner (List.mem_cons_self ..)

theorem numberTail_loosen {tail after loose : List Char} (number : numberTail (tail ++ after) = tail)
    (blank : ∀ c, loose.head? = some c → isBlank c = true) : numberTail (tail ++ loose) = tail := by
  induction tail with
  | nil =>
    cases loose with
    | nil => rfl
    | cons c loose =>
      have space := blank c rfl
      have digit := isDigit_of_isBlank space
      have dot : c ≠ '.' := fun same => absurd space (by rw [same]; decide)
      simp [numberTail, digit, dot]
  | cons c tail ih =>
    rw [List.cons_append, numberTail] at number ⊢
    split at number
    · rename_i goesOn
      obtain ⟨_, inner⟩ := List.cons.inj number
      have again : (c.isDigit || c = '.' && (tail ++ loose).head?.any Char.isDigit) = true := by
        cases tail with
        | nil =>
          -- a dot at the end of a number is no part of it: the digit behind it would be
          cases digit : c.isDigit with
          | true => rfl
          | false =>
            simp only [digit, Bool.false_or, Bool.and_eq_true, List.nil_append] at goesOn inner
            cases after with
            | nil => simp at goesOn
            | cons d after => simp [numberTail] at inner; simp [inner] at goesOn
        | cons d tail => simpa using goesOn
      rw [if_pos again, ih inner]
    · cases number

theorem numberTail_ne_nil {rest : List Char} (digit : rest.head?.any Char.isDigit = true) :
    numberTail rest ≠ [] := by
  cases rest with
  | nil => simp at digit
  | cons c rest =>
    have first : c.isDigit = true := by simpa using digit
    simp [numberTail, first]

end Reading

theorem takeWhile_eq_self_append {p : Char → Bool} {tail after : List Char}
    (inside : (tail ++ after).takeWhile p = tail) : tail.takeWhile p = tail := by
  have all : ∀ c ∈ tail, p c = true := by
    intro c member
    rw [← inside] at member
    exact List.all_eq_true.mp List.all_takeWhile c member
  have whole : (tail ++ []).takeWhile p = tail ++ [].takeWhile p := List.takeWhile_append_of_pos all
  simpa using whole

/-- Any lexeme but a comment is read again as it is when a blank or nothing follows it. -/
theorem Form.Spells.loosen {c : Char} {tail after loose : List Char} {form : Form}
    (spells : form.Spells c (tail ++ after) tail) (noComment : form ≠ .comment)
    (blank : ∀ c, loose.head? = some c → isBlank c = true) : form.Spells c (tail ++ loose) tail := by
  cases form with
  | comment => exact absurd rfl noComment
  | string => exact ⟨spells.1, Reading.stringTail_of_closed spells.2 loose⟩
  | number =>
    obtain ⟨starts, number⟩ := spells
    refine ⟨?_, (Reading.numberTail_loosen number.symm blank).symm⟩
    cases tail with
    | cons d tail => simpa [Reading.startsNumber] using starts
    | nil =>
      simp only [Reading.startsNumber, List.nil_append, Bool.or_eq_true, Bool.and_eq_true] at starts ⊢
      exact starts.imp_right fun minus => absurd number.symm (Reading.numberTail_ne_nil minus.2)
  | name =>
    obtain ⟨starts, name⟩ := spells
    refine ⟨starts, ?_⟩
    have inside := takeWhile_eq_self_append name.symm
    have outside : loose.takeWhile isNameChar = [] := by
      cases loose with
      | nil => rfl
      | cons d loose => simp [isNameChar_of_isBlank (blank d rfl)]
    rw [List.takeWhile_append, inside, if_pos rfl, outside, List.append_nil]
  | colon | comma | opening | closing => exact spells

/-- The mark of a comment is part of its text. -/
theorem Form.Spells.startsComment_append {c : Char} {tail after : List Char}
    (spells : Form.comment.Spells c (tail ++ after) tail) (other : List Char) :
    Reading.startsComment c (tail ++ other) = true := by
  obtain ⟨starts, comment⟩ := spells
  cases tail with
  | cons d tail => simpa [Reading.startsComment] using starts
  | nil =>
    simp only [Reading.startsComment, List.nil_append, Bool.or_eq_true, Bool.and_eq_true,
      decide_eq_true_eq] at starts comment ⊢
    refine starts.imp_right fun slashes => ?_
    obtain ⟨rest, rfl⟩ := List.head?_eq_some_iff.mp slashes.2
    simp [Reading.commentTail] at comment

theorem Form.Spells.comment_append_nil {c : Char} {tail after : List Char}
    (spells : Form.comment.Spells c (tail ++ after) tail) : Form.comment.Spells c tail tail := by
  have starts := spells.startsComment_append []
  rw [List.append_nil] at starts
  refine ⟨starts, (Reading.commentTail_of_no_feed ?_).symm⟩
  rw [spells.2]
  exact Reading.commentTail_no_feed _

/-- A comment set before a line feed is read again, less the carriage return that now ends the line. -/
theorem Form.Spells.comment_append_feed {c : Char} {tail after : List Char}
    (spells : Form.comment.Spells c (tail ++ after) tail) (rest : List Char) :
    ∃ text returned, (returned = [] ∨ returned = ['\r']) ∧ tail = text ++ returned ∧
      Form.comment.Spells c (tail ++ '\n' :: rest) text := by
  have plain : '\n' ∉ tail := by
    rw [spells.2]
    exact Reading.commentTail_no_feed _
  obtain ⟨returned, form, same⟩ := Reading.commentTail_append_feed plain rest
  exact ⟨_, returned, form, same, spells.startsComment_append _, rfl⟩

end DataLexer
