import DataLexer.Proofs.Abreast
import DataLexer.Proofs.Cover

namespace DataLexer

/-- A text up to the first end of a line. -/
structure UpToLineEnd (text after : List Char) : Prop where
  ended : Reading.LineEnd after
  first : ∀ before rest, text = before ++ rest → rest ≠ [] → ¬ Reading.LineEnd (rest ++ after)

/-- What stands between the quotes of a string. A backslash takes the character behind it. -/
inductive StringBody : List Char → Prop
  | nil : StringBody []
  | plain {c body} : c ≠ '"' → c ≠ '\\' → c ≠ '\n' → StringBody body → StringBody (c :: body)
  | taken {c body} : c ≠ '\n' → StringBody body → StringBody ('\\' :: c :: body)

/-- A comment starts with a sharp sign or two slashes. -/
def OpensComment (c : Char) (rest : List Char) : Prop := c = '#' ∨ c = '/' ∧ rest.head? = some '/'

/-- A number starts with a digit or a minus sign and a digit. -/
def OpensNumber (c : Char) (rest : List Char) : Prop :=
  c.isDigit = true ∨ c = '-' ∧ rest.head?.any Char.isDigit = true

def IsDigits (text : List Char) : Prop := text ≠ [] ∧ ∀ c ∈ text, c.isDigit = true

/-- Digits, then dots with digits behind each, and perhaps a minus sign before it all. -/
def IsNumber (text : List Char) : Prop :=
  ∃ sign digits groups, text = sign ++ (digits ++ List.flatMap ('.' :: ·) groups) ∧
    (sign = [] ∨ sign = ['-']) ∧ IsDigits digits ∧ ∀ group ∈ groups, IsDigits group

namespace Reading

theorem startsComment_iff {c : Char} {rest : List Char} :
    startsComment c rest = true ↔ OpensComment c rest := by
  simp [startsComment, OpensComment]

theorem startsNumber_iff {c : Char} {rest : List Char} :
    startsNumber c rest = true ↔ OpensNumber c rest := by
  simp [startsNumber, OpensNumber]

theorem upToLineEnd_commentTail (rest : List Char) :
    ∃ after, rest = commentTail rest ++ after ∧ UpToLineEnd (commentTail rest) after := by
  obtain ⟨after, split, _⟩ := commentTail_append rest
  have again : commentTail (commentTail rest ++ after) = commentTail rest := by rw [← split]
  obtain ⟨plain, ended, returned⟩ := commentTail_append_iff.mp again
  refine ⟨after, split, ended, fun before inner same more earlier => ?_⟩
  rw [same] at plain returned
  cases inner with
  | nil => exact more rfl
  | cons c inner =>
    cases inner with
    | nil =>
      cases earlier with
      | feed => exact plain (by simp)
      | returned => exact returned rfl (by simp)
    | cons d inner => cases earlier <;> exact plain (by simp)

theorem no_feed_of_stringBody {body : List Char} (inside : StringBody body) : '\n' ∉ body := by
  induction inside with
  | nil => exact List.not_mem_nil
  | plain _ _ feed _ ih => simp [Ne.symm feed, ih]
  | taken feed _ ih => simp [Ne.symm feed, ih]

/-- A string is read through its text and on behind it. -/
theorem stringTail_append_of_stringBody {body rest : List Char} (inside : StringBody body)
    (goesOn : rest.head? ≠ some '\n') :
    stringTail (body ++ rest) = (body ++ (stringTail rest).1, (stringTail rest).2) := by
  induction inside with
  | nil => rfl
  | @plain c body quote escape feed inside ih =>
    have plain := no_feed_of_stringBody inside
    have next : (body ++ rest).head? ≠ some '\n' := by
      cases body with
      | nil => exact goesOn
      | cons d body => simpa using (List.ne_of_not_mem_cons plain).symm
    rw [List.cons_append, stringTail_cons quote feed escape fun _ => next, ih]
    rfl
  | taken feed _ ih =>
    rw [List.cons_append, List.cons_append, stringTail.eq_7 _ _ feed, ih]
    rfl

theorem stringTail_of_stringBody {body : List Char} (inside : StringBody body) (after : List Char) :
    stringTail (body ++ '"' :: after) = (body ++ ['"'], true) :=
  stringTail_append_of_stringBody inside (by simp)

theorem stringBody_of_closed {rest tail : List Char} (closed : stringTail rest = (tail, true)) :
    ∃ body, tail = body ++ ['"'] ∧ StringBody body := by
  fun_induction stringTail rest generalizing tail with
  | case1 | case3 | case4 | case5 | case6 => simp at closed
  | case2 rest =>
    obtain ⟨rfl, _⟩ := Prod.mk.inj closed
    exact ⟨[], rfl, .nil⟩
  | case7 c rest feed inner shut read ih =>
    obtain ⟨rfl, rfl⟩ := Prod.mk.inj closed
    obtain ⟨body, rfl, inside⟩ := ih read
    exact ⟨'\\' :: c :: body, rfl, .taken feed inside⟩
  | case8 c rest quote feed returned alone escaped escape inner shut read ih =>
    obtain ⟨rfl, rfl⟩ := Prod.mk.inj closed
    obtain ⟨body, rfl, inside⟩ := ih read
    exact ⟨c :: body, rfl, .plain quote (ne_backslash alone escape) feed inside⟩

theorem stringTail_opened {rest : List Char}
    (noBody : ∀ body after, rest = body ++ '"' :: after → ¬ StringBody body) :
    (stringTail rest).2 = false := by
  cases closed : (stringTail rest).2 with
  | false => rfl
  | true =>
    obtain ⟨after, split⟩ := stringTail_append rest
    have whole : stringTail rest = ((stringTail rest).1, true) := Prod.ext rfl closed
    generalize (stringTail rest).1 = tail at split whole
    obtain ⟨body, rfl, inside⟩ := stringBody_of_closed whole
    rw [List.append_assoc] at split
    exact absurd inside (noBody body after split)

theorem numberTail_digits_append {digits : List Char} (all : ∀ c ∈ digits, c.isDigit = true)
    (after : List Char) : numberTail (digits ++ after) = digits ++ numberTail after := by
  induction digits with
  | nil => rfl
  | cons c digits ih =>
    have digit := all c (List.mem_cons_self ..)
    rw [List.cons_append, numberTail, digit, ih fun d inside => all d (List.mem_cons_of_mem c inside)]
    rfl

theorem numberTail_groups_append {groups : List (List Char)} (all : ∀ group ∈ groups, IsDigits group)
    (after : List Char) : numberTail (List.flatMap ('.' :: ·) groups ++ after) =
      List.flatMap ('.' :: ·) groups ++ numberTail after := by
  induction groups with
  | nil => rfl
  | cons group groups ih =>
    obtain ⟨nonempty, digits⟩ := all group (List.mem_cons_self ..)
    have later := ih fun other inside => all other (List.mem_cons_of_mem group inside)
    obtain ⟨d, group, rfl⟩ := List.exists_cons_of_ne_nil nonempty
    have dot (text : List Char) :
        numberTail ('.' :: (d :: group ++ text)) = '.' :: numberTail (d :: group ++ text) := by
      rw [numberTail]
      simp [digits d (List.mem_cons_self ..)]
    rw [List.flatMap_cons, List.append_assoc, List.cons_append, dot, numberTail_digits_append digits, later]
    simp

/-- A number is read to its end, and further where the text goes on with one. -/
theorem numberTail_of_isNumber {c : Char} {tail : List Char} (number : IsNumber (c :: tail))
    (after : List Char) : numberTail (tail ++ after) = tail ++ numberTail after := by
  obtain ⟨sign, digits, groups, same, signed, ⟨nonempty, all⟩, rest⟩ := number
  rcases signed with rfl | rfl
  · obtain ⟨d, digits, rfl⟩ := List.exists_cons_of_ne_nil nonempty
    have text : tail = digits ++ List.flatMap ('.' :: ·) groups := (List.cons.inj same).2
    have later : ∀ e ∈ digits, e.isDigit = true := fun e inside => all e (List.mem_cons_of_mem d inside)
    rw [text, List.append_assoc, numberTail_digits_append later, numberTail_groups_append rest,
      List.append_assoc]
  · have text : tail = digits ++ List.flatMap ('.' :: ·) groups := (List.cons.inj same).2
    rw [text, List.append_assoc, numberTail_digits_append all, numberTail_groups_append rest,
      List.append_assoc]

theorem numberTail_groups (rest : List Char) : ∃ digits groups,
    numberTail rest = digits ++ List.flatMap ('.' :: ·) groups ∧ (∀ c ∈ digits, c.isDigit = true) ∧
      (∀ group ∈ groups, IsDigits group) ∧ (rest.head?.any Char.isDigit = true → digits ≠ []) := by
  fun_induction numberTail rest with
  | case1 => exact ⟨[], [], rfl, by simp, by simp, by simp⟩
  | case2 c rest goesOn ih =>
    obtain ⟨digits, groups, same, all, others, first⟩ := ih
    by_cases digit : c.isDigit = true
    · refine ⟨c :: digits, groups, by rw [same]; rfl, ?_, others, by simp⟩
      exact List.forall_mem_cons.mpr ⟨digit, all⟩
    · simp only [digit, Bool.false_or, Bool.and_eq_true, decide_eq_true_eq] at goesOn
      obtain ⟨rfl, follows⟩ := goesOn
      refine ⟨[], digits :: groups, by rw [same]; simp, by simp, ?_, fun head => absurd head digit⟩
      exact List.forall_mem_cons.mpr ⟨⟨first follows, all⟩, others⟩
  | case3 c rest stops =>
    refine ⟨[], [], rfl, by simp, by simp, fun head => ?_⟩
    have digit : c.isDigit = true := by simpa using head
    simp [digit] at stops

theorem isNumber_numberTail {c : Char} {rest : List Char} (starts : startsNumber c rest = true) :
    IsNumber (c :: numberTail rest) := by
  obtain ⟨digits, groups, same, all, others, first⟩ := numberTail_groups rest
  rcases startsNumber_iff.mp starts with digit | ⟨rfl, follows⟩
  · refine ⟨[], c :: digits, groups, by rw [same]; rfl, Or.inl rfl, ⟨by simp, ?_⟩, others⟩
    exact List.forall_mem_cons.mpr ⟨digit, all⟩
  · exact ⟨['-'], digits, groups, by rw [same]; rfl, Or.inr rfl, ⟨first follows, all⟩, others⟩

theorem isNumber_prefix {c : Char} {rest longer : List Char} (inside : longer <+: c :: rest)
    (number : IsNumber longer) : longer <+: c :: numberTail rest := by
  obtain ⟨after, same⟩ := inside
  cases longer with
  | nil => exact List.nil_prefix
  | cons d tail =>
    obtain ⟨rfl, text⟩ := List.cons.inj same
    have split : tail ++ after = rest := text
    rw [← split, numberTail_of_isNumber number]
    exact ⟨numberTail after, rfl⟩

end Reading

theorem isNameChar_of_isNameStart {c : Char} (start : isNameStart c = true) : isNameChar c = true := by
  simp only [isNameStart, Bool.or_eq_true] at start
  rcases start with underscore | letter
  · simp [isNameChar, underscore]
  · simp [isNameChar, isAlphanumeric, letter]

/-- The lexer gives a token for the lexeme `lexeme` of its source and goes on before the text `after`. -/
structure Lexer.Gives (lexer : Lexer) (source : String) (lexeme after : List Char) (token : Token) :
    Prop where
  call : ∃ next, lexer.next = (.ok token, next) ∧ next.finished = false ∧ next.cursor.ahead = after
  text : token.text = String.ofList lexeme
  place : ∃ before, source.toList = before ++ lexeme ++ after ∧
    token.span = (Position.behind before).upTo (Position.behind (before ++ lexeme))

/-- What two lexers give before one text that starts with `c`: the same, but for the kind of a name and for
a closing bracket, which only one of them may accept. -/
inductive AgreeBefore (c : Char) : Except LexError Token × Lexer → Except LexError Token × Lexer → Prop
  | token {token token' next next'} : token'.text = token.text →
      next'.cursor.ahead = next.cursor.ahead → (isNameStart c = false → token'.kind = token.kind) →
      AgreeBefore c (.ok token, next) (.ok token', next')
  | error {error error' next next'} : error.Alike error' →
      AgreeBefore c (.error error, next) (.error error', next')
  | closing {call call'} (delimiter : Delimiter) : c = delimiter.closeChar → AgreeBefore c call call'

/-- What a lexer gives for the text `c :: rest` ahead, where a lexeme starts. -/
structure LexemeLaw (source : String) (lexer : Lexer) (c : Char) (rest : List Char) : Prop where
  comment : OpensComment c rest → ∃ text after token, rest = text ++ after ∧ UpToLineEnd text after ∧
    lexer.Gives source (c :: text) after token ∧ token.kind = .comment
  string : c = '"' → ∀ body after, rest = body ++ '"' :: after → StringBody body →
    ∃ token, lexer.Gives source ('"' :: body ++ ['"']) after token ∧ token.kind = .string
  unterminated : c = '"' → (∀ body after, rest = body ++ '"' :: after → ¬ StringBody body) →
    ∃ span next, lexer.next = (.error (.unterminatedString span), next)
  number : OpensNumber c rest → ∃ tail after token, rest = tail ++ after ∧ IsNumber (c :: tail) ∧
    (∀ longer, longer <+: c :: rest → IsNumber longer → longer <+: c :: tail) ∧
    lexer.Gives source (c :: tail) after token ∧ token.kind = .number
  name : isNameStart c = true → ∃ tail after token, rest = tail ++ after ∧
    (∀ d ∈ c :: tail, isNameChar d = true) ∧ (∀ d, after.head? = some d → isNameChar d = false) ∧
    lexer.Gives source (c :: tail) after token ∧ token.kind.form? = some .name
  colon : c = ':' → ∃ token, lexer.Gives source [c] rest token ∧ token.kind = .colon
  comma : c = ',' → ∃ token, lexer.Gives source [c] rest token ∧ token.kind = .comma
  opening : ∀ delimiter : Delimiter, c = delimiter.openChar →
    ∃ token, lexer.Gives source [c] rest token ∧ token.kind = delimiter.openKind
  closing : ∀ delimiter : Delimiter, c = delimiter.closeChar →
    (∃ token, lexer.Gives source [c] rest token ∧ token.kind = delimiter.closeKind) ∨
      ∃ span opener next, lexer.next = (.error (.unbalancedDelimiter (some c) span opener), next)
  other : ¬ OpensComment c rest → c ≠ '"' → ¬ OpensNumber c rest → isNameStart c = false → c ≠ ':' →
    c ≠ ',' → (∀ delimiter : Delimiter, c ≠ delimiter.openChar ∧ c ≠ delimiter.closeChar) →
    ∃ span next, lexer.next = (.error (.unexpectedCharacter c span), next)
  alone : ∀ other : Lexer, other.Meets c rest → AgreeBefore c lexer.next other.next

section Law

variable {source : String} {past : List Token} {lexer other : Lexer} {c : Char}
  {rest tail after : List Char} {form : Form}

theorem Reached.gives (reached : Reached source past lexer) (meets : lexer.Meets c rest)
    (spells : form.Spells c rest tail) (split : rest = tail ++ after) (fits : lexer.Fits form) :
    ∃ token, lexer.Gives source (c :: tail) after token ∧
      token.kind = lexer.kindOf (c :: tail) after form := by
  obtain ⟨token, next, call, passes⟩ := meets.takes spells fits
  have settled := (reached.standing meets.running).settled
  have started := (reached.standing meets.running).started
  have behind : next.cursor.ahead = after := by
    obtain ⟨_, same⟩ := List.cons.inj (meets.here.symm.trans passes.ahead)
    exact (List.append_cancel_left (split.symm.trans same)).symm
  have text := settled.whole
  rw [meets.here, split] at text
  refine ⟨token, ⟨⟨next, call, passes.running, behind⟩, passes.text, lexer.settled.cursor.read, ?_, ?_⟩, ?_⟩
  · rw [← text]
    simp
  · have stop := (started.advanceBy (tail.length + 1)).place
    rw [← passes.cursor, passes.read] at stop
    rw [passes.span, stop, settled.place]
  · rw [passes.kind, behind]

/-- Only the kind of a name hangs on the lexer. -/
theorem Lexer.kindOf_eq_of_ne_name (noName : form ≠ .name) (lexeme behind : List Char) :
    other.kindOf lexeme behind form = lexer.kindOf lexeme behind form := by
  cases form with
  | name => exact absurd rfl noName
  | _ => rfl

/-- Any two lexers before one text read the same, but for the kinds of names and for closing brackets. -/
theorem Lexer.Meets.agree (meets : lexer.Meets c rest) (meets' : other.Meets c rest) :
    AgreeBefore c lexer.next other.next := by
  cases reading : Reading.ofText c rest with
  | lexeme form tail =>
    have spells := Reading.ofText_eq_lexeme_iff.mp reading
    by_cases closes : ∃ delimiter, form = .closing delimiter
    · obtain ⟨delimiter, rfl⟩ := closes
      exact .closing delimiter spells.1
    · have fits (lexer : Lexer) : lexer.Fits form := by
        by_contra unfit
        exact closes (not_fits unfit)
      obtain ⟨token, next, call, passes⟩ := meets.takes spells (fits lexer)
      obtain ⟨token', next', call', passes'⟩ := meets'.takes spells (fits other)
      have ahead : next'.cursor.ahead = next.cursor.ahead := by
        have same := meets.here.symm.trans passes.ahead
        rw [meets'.here.symm.trans passes'.ahead] at same
        exact List.append_cancel_left same
      rw [call, call']
      refine .token (by rw [passes'.text, passes.text]) ahead fun noName => ?_
      rw [passes.kind, passes'.kind, ahead]
      refine kindOf_eq_of_ne_name ?_ _ _
      rintro rfl
      exact absurd spells.1 (by simp [noName])
  | unterminated tail =>
    obtain ⟨rfl, opened⟩ := Reading.ofText_eq_unterminated reading
    obtain ⟨_, _, call⟩ := meets.next_of_opened (by rw [opened])
    obtain ⟨_, _, call'⟩ := meets'.next_of_opened (by rw [opened])
    rw [call, call']
    exact .error trivial
  | unexpected =>
    obtain ⟨_, _, call⟩ := meets.next_of_unexpected reading
    obtain ⟨_, _, call'⟩ := meets'.next_of_unexpected reading
    rw [call, call']
    exact .error rfl

/-- Where a lexeme starts, the grammar and the text ahead decide what is read. -/
theorem Reached.lexeme_law (reached : Reached source past lexer) (meets : lexer.Meets c rest) :
    LexemeLaw source lexer c rest where
  comment := by
    intro opens
    obtain ⟨after, split, line⟩ := Reading.upToLineEnd_commentTail rest
    have spells : Form.comment.Spells c rest (Reading.commentTail rest) :=
      ⟨Reading.startsComment_iff.mpr opens, rfl⟩
    obtain ⟨token, gives, kind⟩ := reached.gives meets spells split trivial
    exact ⟨_, after, token, split, line, gives, kind⟩
  string := by
    rintro rfl body after split inside
    have spells : Form.string.Spells '"' rest (body ++ ['"']) := by
      rw [split]
      exact ⟨rfl, Reading.stringTail_of_stringBody inside after⟩
    have split' : rest = (body ++ ['"']) ++ after := by rw [split, List.append_assoc]; rfl
    obtain ⟨token, gives, kind⟩ := reached.gives meets spells split' trivial
    exact ⟨token, gives, kind⟩
  unterminated := by
    rintro rfl noBody
    exact meets.next_of_opened (Reading.stringTail_opened noBody)
  number := by
    intro opens
    have starts := Reading.startsNumber_iff.mpr opens
    obtain ⟨after, split⟩ := Reading.numberTail_append rest
    have spells : Form.number.Spells c rest (Reading.numberTail rest) := ⟨starts, rfl⟩
    obtain ⟨token, gives, kind⟩ := reached.gives meets spells split trivial
    exact ⟨_, after, token, split, Reading.isNumber_numberTail starts, fun _ => Reading.isNumber_prefix,
      gives, kind⟩
  name := by
    intro starts
    have split : rest = rest.takeWhile isNameChar ++ rest.dropWhile isNameChar :=
      List.takeWhile_append_dropWhile.symm
    have spells : Form.name.Spells c rest (rest.takeWhile isNameChar) := ⟨starts, rfl⟩
    obtain ⟨token, gives, kind⟩ := reached.gives meets spells split trivial
    refine ⟨_, _, token, split, ?_, ?_, gives, by rw [kind, Lexer.form?_kindOf]⟩
    · exact List.forall_mem_cons.mpr ⟨isNameChar_of_isNameStart starts,
        fun d inside => List.all_eq_true.mp List.all_takeWhile d inside⟩
    · intro d found
      have stops := List.head?_dropWhile_not isNameChar rest
      rw [found] at stops
      simpa using stops
  colon := by
    intro same
    have spells : Form.colon.Spells c rest [] := ⟨same, rfl⟩
    exact reached.gives meets spells rfl trivial
  comma := by
    intro same
    have spells : Form.comma.Spells c rest [] := ⟨same, rfl⟩
    exact reached.gives meets spells rfl trivial
  opening := by
    intro delimiter same
    have spells : (Form.opening delimiter).Spells c rest [] := ⟨same, rfl⟩
    exact reached.gives meets spells rfl trivial
  closing := by
    intro delimiter same
    have spells : (Form.closing delimiter).Spells c rest [] := ⟨same, rfl⟩
    by_cases fits : lexer.Fits (.closing delimiter)
    · exact Or.inl (reached.gives meets spells rfl fits)
    · subst same
      obtain ⟨span, next, call⟩ := meets.next_of_unfit fits
      exact Or.inr ⟨span, _, next, call⟩
  other := by
    intro noComment noQuote noNumber noName noColon noComma noBracket
    refine meets.next_of_unexpected (Reading.ofText_eq_unexpected_iff.mpr ⟨noQuote, ?_⟩)
    intro form tail spells
    cases form with
    | comment => exact noComment (Reading.startsComment_iff.mp spells.1)
    | string => exact noQuote spells.1
    | number => exact noNumber (Reading.startsNumber_iff.mp spells.1)
    | name => exact absurd spells.1 (by simp [noName])
    | colon => exact noColon spells.1
    | comma => exact noComma spells.1
    | opening delimiter => exact (noBracket delimiter).1 spells.1
    | closing delimiter => exact (noBracket delimiter).2 spells.1
  alone := fun _ => meets.agree

end Law

/-- A number within a bracket, before a dot that is no part of it. -/
theorem lexeme_law_number : ∃ past lexer, Reached "(-1.2.x" past lexer ∧
    lexer.Meets '-' "1.2.x".toList ∧ LexemeLaw "(-1.2.x" lexer '-' "1.2.x".toList := by
  have bracket : (Lexer.ofText "(-1.2.x").next.1 = .ok ⟨.parenOpen, "(", ⟨0, 1, 1, 1⟩⟩ := by decide
  have reached : Reached "(-1.2.x" [⟨.parenOpen, "(", ⟨0, 1, 1, 1⟩⟩] (Lexer.ofText "(-1.2.x").next.2 :=
    .token .start (Prod.ext bracket rfl)
  have meets : (Lexer.ofText "(-1.2.x").next.2.Meets '-' "1.2.x".toList :=
    ⟨by decide, by decide, fun breaks => absurd breaks.2 (by decide)⟩
  exact ⟨_, _, reached, meets, reached.lexeme_law meets⟩

end DataLexer
