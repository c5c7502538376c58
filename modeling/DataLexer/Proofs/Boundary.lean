import DataLexer.Proofs.Reading

namespace DataLexer

/-- The text behind a lexeme goes no further with it. -/
def Form.Stops (tail after : List Char) : Form → Prop
  | .comment => Reading.LineEnd after ∧ (after.head? = some '\n' → tail.getLast? ≠ some '\r')
  | .number => Reading.numberTail after = []
  | .name => ∀ c, after.head? = some c → isNameChar c = false
  | _ => True

/-- A text that begins as another does, or with a blank, or not at all. -/
def Looser (text loose : List Char) : Prop :=
  ∀ c, loose.head? = some c → text.head? = some c ∨ isBlank c = true

/-- A colon is next on the line. -/
def ColonNext (text : List Char) : Prop := (text.dropWhile isInlineBlank).head? = some ':'

theorem Looser.refl (text : List Char) : Looser text text := fun _ => Or.inl

theorem Looser.head {text loose : List Char} (looser : Looser text loose) {c : Char}
    (solid : isBlank c = false) (found : loose.head? = some c) : text.head? = some c := by
  rcases looser c found with same | blank
  · exact same
  · exact absurd blank (by simp [solid])

theorem Looser.any_isDigit {text loose : List Char} (looser : Looser text loose)
    (found : loose.head?.any Char.isDigit = true) : text.head?.any Char.isDigit = true := by
  cases loose with
  | nil => cases found
  | cons c loose =>
    have digit : c.isDigit = true := by simpa using found
    have solid : isBlank c = false := by
      cases blank : isBlank c with
      | false => rfl
      | true => exact absurd (isDigit_of_isBlank blank) (by simp [digit])
    simp [looser.head solid rfl, digit]

theorem colonNext_append {blank text : List Char} (inline : ∀ c ∈ blank, isInlineBlank c = true) :
    ColonNext (blank ++ text) ↔ ColonNext text := by
  unfold ColonNext
  rw [List.dropWhile_append_of_pos inline]

theorem not_colonNext_of_feed {blank : List Char} (space : ∀ c ∈ blank, isBlank c = true)
    (feed : '\n' ∈ blank) (text : List Char) : ¬ ColonNext (blank ++ text) := by
  obtain ⟨before, after, rfl, fresh⟩ := List.eq_append_cons_of_mem feed
  have inline : ∀ c ∈ before, isInlineBlank c = true := by
    intro c inside
    simp [isInlineBlank, ne_of_mem_of_not_mem inside fresh, space c (List.mem_append_left _ inside)]
  rw [List.append_assoc, colonNext_append inline]
  simp [ColonNext, isInlineBlank]

theorem colonNext_of_solid {text : List Char} (solid : ∀ c, text.head? = some c → isBlank c = false) :
    ColonNext text ↔ text.head? = some ':' := by
  cases text with
  | nil => rfl
  | cons c text => simp [ColonNext, isInlineBlank, solid c rfl]

namespace Reading

theorem commentTail_append_lineEnd {tail after : List Char} (plain : '\n' ∉ tail) (ended : LineEnd after)
    (returned : after.head? = some '\n' → tail.getLast? ≠ some '\r') :
    commentTail (tail ++ after) = tail := by
  induction tail with
  | nil => cases ended <;> rfl
  | cons c tail ih =>
    obtain ⟨first, inner⟩ := not_or.mp (mt List.mem_cons.mpr plain)
    have goesOn : ∀ rest, c = '\r' → tail ++ after = '\n' :: rest → False := by
      rintro rest rfl feed
      cases tail with
      | nil => exact returned (by rw [← List.nil_append after, feed]; rfl) rfl
      | cons d tail =>
        obtain ⟨rfl, _⟩ := List.cons.inj feed
        exact inner (List.mem_cons_self ..)
    rw [List.cons_append, commentTail.eq_4 _ _ (fun same => first same.symm) goesOn, ih inner]
    intro feed
    cases tail with
    | nil => simp
    | cons d tail => simpa using returned feed

theorem commentTail_append_iff {tail after : List Char} : commentTail (tail ++ after) = tail ↔
    '\n' ∉ tail ∧ LineEnd after ∧ (after.head? = some '\n' → tail.getLast? ≠ some '\r') := by
  constructor
  · intro comment
    have plain : '\n' ∉ tail := by
      rw [← comment]
      exact commentTail_no_feed _
    obtain ⟨behind, split, ended⟩ := commentTail_append (tail ++ after)
    rw [comment] at split
    obtain rfl := List.append_cancel_left split
    refine ⟨plain, ended, fun feed last => ?_⟩
    -- a carriage return before the line feed would have ended the comment itself
    obtain ⟨text, rfl⟩ := List.getLast?_eq_some_iff.mp last
    obtain ⟨rest, rfl⟩ := List.head?_eq_some_iff.mp feed
    have shorter : commentTail (text ++ '\r' :: '\n' :: rest) = text :=
      commentTail_append_lineEnd (fun inside => plain (by simp [inside])) .returned (by simp)
    rw [List.append_assoc] at comment
    exact absurd (shorter.symm.trans comment) (by simp)
  · rintro ⟨plain, ended, returned⟩
    exact commentTail_append_lineEnd plain ended returned

theorem stringTail_no_feed (rest : List Char) : '\n' ∉ (stringTail rest).1 := by
  fun_induction stringTail rest with
  | case1 | case2 | case3 | case4 | case5 | case6 => simp
  | case7 c rest feed tail closed read ih =>
    rw [read] at ih
    simp only [List.mem_cons, not_or]
    exact ⟨by decide, fun same => feed same.symm, ih⟩
  | case8 c rest quote feed _ _ _ _ tail closed read ih =>
    rw [read] at ih
    simp only [List.mem_cons, not_or]
    exact ⟨fun same => feed same.symm, ih⟩

/-- A string without an end goes on to the end of its line. -/
theorem stringTail_append_of_open {rest tail : List Char} (opened : stringTail rest = (tail, false)) :
    ∃ after, rest = tail ++ after ∧ LineEnd after := by
  fun_induction stringTail rest generalizing tail with
  | case1 =>
    cases opened
    exact ⟨[], rfl, .text⟩
  | case2 => cases opened
  | case3 rest =>
    cases opened
    exact ⟨'\n' :: rest, rfl, .feed⟩
  | case4 rest =>
    cases opened
    exact ⟨'\r' :: '\n' :: rest, rfl, .returned⟩
  | case5 =>
    cases opened
    exact ⟨[], rfl, .text⟩
  | case6 rest =>
    cases opened
    exact ⟨'\n' :: rest, rfl, .feed⟩
  | case7 c rest _ inner closed read ih =>
    cases opened
    obtain ⟨after, rfl, ended⟩ := ih read
    exact ⟨after, rfl, ended⟩
  | case8 c rest _ _ _ _ _ _ inner closed read ih =>
    cases opened
    obtain ⟨after, rfl, ended⟩ := ih read
    exact ⟨after, rfl, ended⟩

theorem numberTail_eq_nil_iff {c : Char} {rest : List Char} : numberTail (c :: rest) = [] ↔
    c.isDigit = false ∧ (c = '.' → rest.head?.any Char.isDigit = false) := by
  rw [numberTail]
  cases c.isDigit <;> by_cases dot : c = '.' <;> simp [dot]

theorem numberTail_append_iff {tail after : List Char} :
    numberTail (tail ++ after) = tail ↔ numberTail tail = tail ∧ numberTail after = [] := by
  induction tail with
  | nil => simp [numberTail]
  | cons c tail ih =>
    have keeps (text : List Char) : numberTail (c :: text) = c :: tail ↔
        (c.isDigit || c = '.' && text.head?.any Char.isDigit) = true ∧ numberTail text = tail := by
      rw [numberTail]
      split <;> simp_all
    rw [List.cons_append, keeps, keeps, ih]
    cases tail with
    | cons d tail => simp [and_assoc]
    | nil =>
      cases digit : c.isDigit with
      | true => simp [numberTail]
      | false =>
        cases after with
        | nil => simp
        | cons d after => simp +contextual [numberTail_eq_nil_iff]

theorem numberTail_no_feed (rest : List Char) : '\n' ∉ numberTail rest := by
  fun_induction numberTail rest with
  | case1 | case3 => simp
  | case2 c rest goesOn ih =>
    rintro (_ | ⟨_, inside⟩)
    · simp at goesOn
    · exact ih inside

theorem numberTail_of_looser {after loose : List Char} (stops : numberTail after = [])
    (looser : Looser after loose)
    (dot : ∀ rest rest', after = '.' :: rest → loose = '.' :: rest' → Looser rest rest') :
    numberTail loose = [] := by
  cases loose with
  | nil => rfl
  | cons c rest' =>
    rw [numberTail_eq_nil_iff]
    rcases looser c rfl with head | blank
    · obtain ⟨rest, rfl⟩ := List.head?_eq_some_iff.mp head
      obtain ⟨digit, behind⟩ := numberTail_eq_nil_iff.mp stops
      refine ⟨digit, fun same => ?_⟩
      subst same
      have inner := (dot rest rest' rfl rfl).any_isDigit
      simpa [behind rfl] using inner
    · exact ⟨isDigit_of_isBlank blank, fun same => absurd blank (by rw [same]; decide)⟩

theorem ofText_eq_unexpected_iff {c : Char} {rest : List Char} : ofText c rest = .unexpected ↔
    c ≠ '"' ∧ ∀ (form : Form) tail, ¬ form.Spells c rest tail := by
  constructor
  · intro unexpected
    refine ⟨?_, fun form tail spells => ?_⟩
    · rintro rfl
      cases closed : (stringTail rest).2 <;> simp [ofText, startsComment] at unexpected <;>
        split at unexpected <;> cases unexpected
    · rw [ofText_eq_lexeme_iff.mpr spells] at unexpected
      cases unexpected
  · rintro ⟨quote, unread⟩
    cases reading : ofText c rest with
    | lexeme form tail => exact absurd (ofText_eq_lexeme_iff.mp reading) (unread form tail)
    | unterminated tail => exact absurd (ofText_eq_unterminated reading).1 quote
    | unexpected => rfl

theorem ofText_unexpected_of_looser {c : Char} {rest loose : List Char}
    (unexpected : ofText c rest = .unexpected) (looser : Looser rest loose) :
    ofText c loose = .unexpected := by
  rw [ofText_eq_unexpected_iff] at unexpected ⊢
  obtain ⟨quote, unread⟩ := unexpected
  refine ⟨quote, fun form tail spells => ?_⟩
  cases form with
  | comment =>
    have starts : startsComment c rest = true := by
      have mark := spells.1
      simp only [startsComment, Bool.or_eq_true, Bool.and_eq_true, decide_eq_true_eq] at mark ⊢
      exact mark.imp_right fun both => ⟨both.1, looser.head (by decide) both.2⟩
    exact unread .comment _ ⟨starts, rfl⟩
  | number =>
    have starts : startsNumber c rest = true := by
      have mark := spells.1
      simp only [startsNumber, Bool.or_eq_true, Bool.and_eq_true] at mark ⊢
      exact mark.imp_right fun both => ⟨both.1, looser.any_isDigit both.2⟩
    exact unread .number _ ⟨starts, rfl⟩
  | name => exact unread .name _ ⟨spells.1, rfl⟩
  | string => exact quote spells.1
  | colon => exact unread .colon [] ⟨spells.1, rfl⟩
  | comma => exact unread .comma [] ⟨spells.1, rfl⟩
  | opening delimiter => exact unread (.opening delimiter) [] ⟨spells.1, rfl⟩
  | closing delimiter => exact unread (.closing delimiter) [] ⟨spells.1, rfl⟩

end Reading

theorem takeWhile_append_iff {p : Char → Bool} {tail after : List Char} :
    tail = (tail ++ after).takeWhile p ↔
      tail = tail.takeWhile p ∧ ∀ c, after.head? = some c → p c = false := by
  constructor
  · intro whole
    have inside := takeWhile_eq_self_append whole.symm
    refine ⟨inside.symm, fun c head => ?_⟩
    obtain ⟨rest, rfl⟩ := List.head?_eq_some_iff.mp head
    rw [List.takeWhile_append, inside, if_pos rfl] at whole
    cases keeps : p c with
    | false => rfl
    | true => simp [keeps] at whole
  · rintro ⟨inside, stops⟩
    have outside : after.takeWhile p = [] := by
      cases after with
      | nil => rfl
      | cons c after => simp [stops c rfl]
    rw [List.takeWhile_append, ← inside, if_pos rfl, outside, List.append_nil]

/-- A lexeme is read before a text exactly when it is one by itself and the text stops it. -/
theorem Form.spells_append_iff {c : Char} {tail after : List Char} {form : Form} :
    form.Spells c (tail ++ after) tail ↔ form.Spells c tail tail ∧ form.Stops tail after := by
  cases form with
  | comment =>
    have alone : Reading.commentTail tail = tail ↔ '\n' ∉ tail := by
      simpa [Reading.LineEnd.text] using @Reading.commentTail_append_iff tail []
    constructor
    · intro spells
      obtain ⟨plain, stops⟩ := Reading.commentTail_append_iff.mp spells.2.symm
      exact ⟨spells.comment_append_nil, stops⟩
    · rintro ⟨spells, stops⟩
      have same : tail = tail ++ [] := (List.append_nil tail).symm
      have marked : Form.comment.Spells c (tail ++ []) tail := by rwa [← same]
      exact ⟨marked.startsComment_append after,
        (Reading.commentTail_append_iff.mpr ⟨alone.mp spells.2.symm, stops⟩).symm⟩
  | string =>
    constructor
    · rintro ⟨quote, closed⟩
      have alone := Reading.stringTail_of_closed closed []
      rw [List.append_nil] at alone
      exact ⟨⟨quote, alone⟩, trivial⟩
    · rintro ⟨⟨quote, closed⟩, _⟩
      exact ⟨quote, Reading.stringTail_of_closed closed after⟩
  | number =>
    constructor
    · intro spells
      have stops := (Reading.numberTail_append_iff.mp spells.2.symm).2
      have alone : Form.number.Spells c (tail ++ []) tail := spells.loosen (by simp) (by simp)
      rw [List.append_nil] at alone
      exact ⟨alone, stops⟩
    · rintro ⟨⟨starts, number⟩, stops⟩
      refine ⟨?_, (Reading.numberTail_append_iff.mpr ⟨number.symm, stops⟩).symm⟩
      cases tail with
      | nil =>
        have digit : c.isDigit = true := by simpa [Reading.startsNumber] using starts
        simp [Reading.startsNumber, digit]
      | cons d tail => simpa [Reading.startsNumber] using starts
  | name =>
    unfold Spells
    rw [takeWhile_append_iff, ← and_assoc]
    rfl
  | colon | comma | opening | closing => exact (and_iff_left trivial).symm

theorem Form.Spells.no_feed {c : Char} {rest tail : List Char} {form : Form}
    (spells : form.Spells c rest tail) : '\n' ∉ c :: tail := by
  rw [List.mem_cons, not_or]
  cases form with
  | comment =>
    obtain ⟨starts, rfl⟩ := spells
    refine ⟨?_, Reading.commentTail_no_feed rest⟩
    rintro rfl
    cases starts
  | string =>
    obtain ⟨rfl, closed⟩ := spells
    have plain := Reading.stringTail_no_feed rest
    rw [closed] at plain
    exact ⟨by decide, plain⟩
  | number =>
    obtain ⟨starts, rfl⟩ := spells
    refine ⟨?_, Reading.numberTail_no_feed rest⟩
    rintro rfl
    simp [Reading.startsNumber] at starts
  | name =>
    obtain ⟨starts, rfl⟩ := spells
    have feed : isNameChar '\n' = false := isNameChar_of_isBlank (by decide)
    constructor
    · rintro rfl
      revert starts
      decide
    · intro inside
      have inner := List.all_eq_true.mp List.all_takeWhile _ inside
      rw [feed] at inner
      cases inner
  | colon | comma =>
    obtain ⟨rfl, rfl⟩ := spells
    exact ⟨by decide, List.not_mem_nil⟩
  | opening delimiter | closing delimiter =>
    obtain ⟨rfl, rfl⟩ := spells
    exact ⟨by cases delimiter <;> decide, List.not_mem_nil⟩

/-- Two texts begin with the same lexeme, with a colon next behind a name in both or in neither, or with
the same fault, or they are both at their end. -/
inductive BeginAlike : List Char → List Char → Prop
  | nothing : BeginAlike [] []
  | lexeme {form : Form} {c tail after after'} : form.Spells c (tail ++ after) tail →
      form.Spells c (tail ++ after') tail → (form = .name → (ColonNext after' ↔ ColonNext after)) →
      BeginAlike (c :: tail ++ after) (c :: tail ++ after')
  | unterminated {rest rest'} : (Reading.stringTail rest).2 = false →
      (Reading.stringTail rest').2 = false → BeginAlike ('"' :: rest) ('"' :: rest')
  | unexpected {c rest rest'} : Reading.ofText c rest = .unexpected →
      Reading.ofText c rest' = .unexpected → BeginAlike (c :: rest) (c :: rest')

/-- Texts that go on differently behind a lexeme begin alike when both stop it. -/
theorem BeginAlike.of_stops {form : Form} {c : Char} {tail after after' : List Char}
    (spells : form.Spells c (tail ++ after) tail) (stops : form.Stops tail after → form.Stops tail after')
    (colon : form = .name → (ColonNext after' ↔ ColonNext after)) :
    BeginAlike (c :: tail ++ after) (c :: tail ++ after') := by
  obtain ⟨alone, stopped⟩ := Form.spells_append_iff.mp spells
  exact .lexeme spells (Form.spells_append_iff.mpr ⟨alone, stops stopped⟩) colon

theorem BeginAlike.refl (text : List Char) : BeginAlike text text := by
  cases text with
  | nil => exact .nothing
  | cons c rest =>
    cases reading : Reading.ofText c rest with
    | lexeme form tail =>
      have spells := Reading.ofText_eq_lexeme_iff.mp reading
      obtain ⟨after, rfl⟩ := spells.append
      exact .of_stops spells id fun _ => Iff.rfl
    | unterminated tail =>
      obtain ⟨rfl, opened⟩ := Reading.ofText_eq_unterminated reading
      exact .unterminated (by rw [opened]) (by rw [opened])
    | unexpected => exact .unexpected reading reading

end DataLexer
