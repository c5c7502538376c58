import Mathlib.Data.List.Chain
import Mathlib.Data.List.TakeWhile
import DataLexer.Proofs.Alike
import DataLexer.Proofs.Cover
import DataLexer.Proofs.Start

namespace DataLexer

/-- A name that is no key: a plain one or a reserved word. -/
def TokenKind.isWord : TokenKind → Bool
  | identifier | boolean | tableKeyword => true
  | _ => false

/-- What is set between a token and those that follow it: a line feed behind a comment, elsewhere a
space. -/
def separator (token : Token) : List Token → List Char
  | [] => []
  | _ :: _ => if token.kind = .comment then ['\n'] else [' ']

def setApart : List Token → List Char
  | [] => []
  | token :: rest => token.text.toList ++ (separator token rest ++ setApart rest)

/-- The text of tokens set apart anew, the end of the text left out. -/
def relaid (tokens : List Token) : String := String.ofList (setApart (tokens.filter (!·.isEof)))

theorem isBlank_separator (token : Token) (rest : List Token) :
    ∀ c ∈ separator token rest, isBlank c = true := by
  have feed : isBlank '\n' = true := by decide
  have space : isBlank ' ' = true := by decide
  cases rest with
  | nil => simp [separator]
  | cons next rest =>
    by_cases comment : token.kind = .comment
    · simp [separator, comment, feed]
    · simp [separator, comment, space]

/-- A text that a lexeme may be set before: blank or empty, and behind a comment the end of a line. -/
structure Form.Apart (form : Form) (text : List Char) : Prop where
  blank : ∀ c, text.head? = some c → isBlank c = true
  line : form = .comment → text = [] ∨ text.head? = some '\n'

/-- A lexeme set apart is read again, a comment perhaps less the carriage return at its end. -/
theorem Form.Spells.again {c : Char} {tail after text : List Char} {form : Form}
    (spells : form.Spells c (tail ++ after) tail) (apart : form.Apart text) :
    ∃ lexeme returned, tail = lexeme ++ returned ∧ form.Spells c (tail ++ text) lexeme ∧
      (returned = [] ∨ form = .comment ∧ returned = ['\r']) := by
  by_cases comment : form = .comment
  · subst form
    rcases apart.line rfl with rfl | feed
    · exact ⟨tail, [], by simp, by simpa using spells.comment_append_nil, Or.inl rfl⟩
    · obtain ⟨rest, rfl⟩ := List.head?_eq_some_iff.mp feed
      obtain ⟨lexeme, returned, which, same, again⟩ := spells.comment_append_feed rest
      exact ⟨lexeme, returned, same, again, which.imp_right fun carriage => ⟨rfl, carriage⟩⟩
  · exact ⟨tail, [], by simp, spells.loosen comment apart.blank, Or.inl rfl⟩

namespace TokenKind

theorem isWord_of_name {kind : TokenKind} (name : kind.form? = some .name) :
    kind.isWord = true ↔ kind ≠ .key := by
  cases kind <;> simp [isWord, form?] at name ⊢

theorem form?_of_isWord {kind : TokenKind} (word : kind.isWord = true) : kind.form? = some .name := by
  cases kind <;> first | rfl | cases word

end TokenKind

def WordBeforeColon (token next : Token) : Prop := token.kind.isWord = true ∧ next.kind = .colon

namespace Lexer

/-- A token begins with a line feed or with what is no blank, and a colon begins nothing but itself. -/
theorem Step.first {lexer after : Lexer} {token : Token} (step : Step lexer (.ok token) after)
    (more : token.isEof = false) :
    ∃ c tail, token.text.toList = c :: tail ∧ c ≠ '\uFEFF' ∧
      (c = '\n' ∨ isBlank c = false) ∧ (c = ':' ↔ token.kind = .colon) := by
  cases step with
  | done | last => cases more
  | rowBreak => exact ⟨'\n', [], by simp, by decide, Or.inl rfl, by simp⟩
  | @lexeme c rest tail form _ _ meets spells _ passes =>
    refine ⟨c, tail, by simp [passes.text], spells.ne_mark, Or.inr (isBlank_head_settled meets.here), ?_⟩
    rw [spells.colon_iff]
    have known := passes.form
    constructor
    · rintro rfl
      exact passes.kind
    · intro kind
      rw [kind] at known
      cases known
      rfl

theorem kindOf_name_key (lexer : Lexer) (lexeme : List Char) {rest : List Char}
    (colon : (rest.dropWhile isInlineBlank).head? = some ':') : lexer.kindOf lexeme rest .name = .key := by
  simp [kindOf, nameKind, colon]

/-- The colon that makes a name a key is the next token. -/
theorem Step.colon {lexer after : Lexer} {token : Token} (step : Step lexer (.ok token) after)
    (running : lexer.finished = false)
    (colon : (lexer.cursor.ahead.dropWhile isInlineBlank).head? = some ':') : token.kind = .colon := by
  obtain ⟨rest, behind⟩ := List.head?_eq_some_iff.mp colon
  have ahead : lexer.cursor.ahead = lexer.cursor.ahead.takeWhile isInlineBlank ++ ':' :: rest := by
    rw [← behind, List.takeWhile_append_dropWhile]
  have inline : ∀ c ∈ lexer.cursor.ahead.takeWhile isInlineBlank, isInlineBlank c = true :=
    List.all_eq_true.mp List.all_takeWhile
  generalize lexer.cursor.ahead.takeWhile isInlineBlank = blank at ahead inline
  simp only [isInlineBlank, Bool.and_eq_true, bne_iff_ne] at inline
  have unmarked : lexer.cursor.ahead.head? ≠ some '\uFEFF' := by
    rw [ahead]
    cases blank with
    | nil => simp
    | cons c blank =>
      intro mark
      cases mark
      exact absurd (inline _ (List.mem_cons_self ..)).2 (by decide)
  have solid : isBlank ':' = false := by decide
  obtain ⟨gap, here⟩ := settled_of_blank (Cursor.skipByteOrderMark_eq unmarked) ahead
    (fun c member => (inline c member).2) solid
  have meets : lexer.Meets ':' rest := by
    refine ⟨running, here, fun breaks => ?_⟩
    have feed := breaks.1
    rw [gap] at feed
    exact (inline _ feed).1 rfl
  obtain ⟨form, tail, spells, _, passes⟩ := step.of_meets meets
  rw [spells.colon_iff.mp rfl] at passes
  exact passes.kind

end Lexer

section Behind

variable {token : Token} {tokens : List Token} {ending : List Char} (line : ending = [] ∨ ending = ['\n'])

include line

theorem apart_separator {form : Form} (known : token.kind.form? = some form) :
    form.Apart (separator token tokens ++ (setApart tokens ++ ending)) := by
  have feed : isBlank '\n' = true := by decide
  have space : isBlank ' ' = true := by decide
  have comment : form = .comment → token.kind = .comment := by
    rintro rfl
    cases kind : token.kind <;> simp [kind, TokenKind.form?] at known
    rfl
  cases tokens with
  | nil =>
    rcases line with rfl | rfl
    · exact ⟨by simp [separator, setApart], by simp [separator, setApart]⟩
    · exact ⟨by simp [separator, setApart, feed], by simp [separator, setApart]⟩
  | cons next rest =>
    by_cases same : token.kind = .comment
    · exact ⟨by simp [separator, same, feed], by simp [separator, same]⟩
    · exact ⟨by simp [separator, same, space], fun form => absurd (comment form) same⟩

/-- Behind a lexeme that is no comment a colon is found on the line when the next token is one. -/
theorem colon_separator (noComment : token.kind ≠ .comment)
    (firsts : ∀ next, tokens.head? = some next → ∃ c tail, next.text.toList = c :: tail ∧
      (c = '\n' ∨ isBlank c = false) ∧ (c = ':' ↔ next.kind = .colon)) :
    ((separator token tokens ++ (setApart tokens ++ ending)).dropWhile isInlineBlank).head? = some ':' ↔
      ∃ next, tokens.head? = some next ∧ next.kind = .colon := by
  have feed : isInlineBlank '\n' = false := by decide
  have space : isInlineBlank ' ' = true := by decide
  cases tokens with
  | nil => rcases line with rfl | rfl <;> simp [separator, setApart, feed]
  | cons next rest =>
    obtain ⟨c, tail, text, solid, colon⟩ := firsts next rfl
    have stops : isInlineBlank c = false := by
      rcases solid with rfl | solid
      · exact feed
      · simp [isInlineBlank, solid]
    simp [separator, setApart, noComment, space, stops, text, colon]

end Behind

/-- A lexeme set apart is read again, and no other text becomes a comment. -/
theorem Lexer.Passes.again {lexer after : Lexer} {form : Form} {c : Char} {rest tail : List Char}
    {token : Token} {ending : List Char} (passes : lexer.Passes form c tail token after)
    (met : lexer.Meets c rest) (spells : form.Spells c rest tail) (tokens : List Token)
    (line : ending = [] ∨ ending = ['\n']) :
    ∃ rest' lexeme returned, setApart (token :: tokens) ++ ending = c :: rest' ∧
      rest' = lexeme ++ (returned ++ (separator token tokens ++ (setApart tokens ++ ending))) ∧
      tail = lexeme ++ returned ∧ (returned = [] ∨ form = .comment ∧ returned = ['\r']) ∧
      form.Spells c rest' lexeme ∧
      Reading.startsComment c rest' = Reading.startsComment c rest := by
  have apart : form.Apart (separator token tokens ++ (setApart tokens ++ ending)) :=
    apart_separator line passes.form
  obtain ⟨_, split⟩ := List.cons.inj (met.here.symm.trans passes.ahead)
  have original := spells
  rw [split] at original
  obtain ⟨lexeme, returned, same, again, which⟩ := original.again apart
  have comment := again.startsComment_iff.trans spells.startsComment_iff.symm
  refine ⟨_, lexeme, returned, ?_, ?_, same, which, again, Bool.eq_iff_iff.mpr comment⟩
  · simp [setApart, passes.text]
  · simp [same]

/-- A copy of a lexer reads its remaining tokens set apart. What blank text it has ahead ends no row that
the lexer goes on with. -/
structure Copies (lexer copy : Lexer) (tokens : List Token) (ending : List Char) : Prop where
  running : copy.finished = false
  alike : lexer.context.Alike copy.context
  started : copy.cursor.Started
  ahead : ∃ blank, copy.cursor.ahead = blank ++ (setApart tokens ++ ending) ∧
    (∀ c ∈ blank, isBlank c = true) ∧
    ('\n' ∈ blank → lexer.settled.cursor.ahead = [] ∨ '\n' ∈ lexer.gap)

theorem Lexer.next_of_drain {lexer : Lexer} {tokens : List Token} {last : Token}
    (drained : lexer.drain = ⟨tokens ++ [last], none⟩) :
    ∃ next after, lexer.Step (.ok next) after ∧
      (tokens.head? = some next ∨ tokens = [] ∧ next = last) := by
  cases tokens with
  | nil =>
    obtain ⟨after, call, _⟩ := drain_cons drained
    exact ⟨last, after, step_of_next call, Or.inr ⟨rfl, rfl⟩⟩
  | cons next rest =>
    obtain ⟨after, call, _⟩ := drain_cons drained
    exact ⟨next, after, step_of_next call, Or.inl rfl⟩

namespace Copies

variable {lexer copy after : Lexer} {token : Token} {tokens : List Token} {ending : List Char}
  {form : Form} {c : Char} {rest tail : List Char}

theorem started_settled (copies : Copies lexer copy tokens ending) : copy.settled.cursor.Started := by
  unfold Lexer.settled
  rw [copies.started.skipByteOrderMark]
  exact copies.started.advanceBy _

theorem meets (copies : Copies lexer copy tokens ending) (met : lexer.Meets c rest) {rest' : List Char}
    (text : setApart tokens ++ ending = c :: rest')
    (comment : Reading.startsComment c rest' = Reading.startsComment c rest) : copy.Meets c rest' := by
  obtain ⟨blank, ahead, space, feed⟩ := copies.ahead
  rw [text] at ahead
  obtain ⟨gap, here⟩ := Lexer.settled_of_blank copies.started.skipByteOrderMark ahead space
    (Lexer.isBlank_head_settled met.here)
  refine ⟨copies.running, here, fun breaks => met.unbroken ⟨?_, ?_⟩⟩
  · have inside := breaks.1
    rw [gap] at inside
    rcases feed inside with nothing | found
    · exact absurd met.here (by simp [nothing])
    · exact found
  · rw [← Lexer.rowEnds_alike copies.alike comment]
    exact breaks.2

/-- The copy takes a lexeme when the lexer does, but for the carriage return at the end of a comment. -/
theorem lexeme (copies : Copies lexer copy (token :: tokens) ending) (line : ending = [] ∨ ending = ['\n'])
    (met : lexer.Meets c rest) (spells : form.Spells c rest tail) (fits : lexer.Fits form)
    (passes : lexer.Passes form c tail token after) :
    ∃ again copy' lexeme returned, copy.next = (.ok again, copy') ∧
      copy.Passes form c lexeme again copy' ∧ tail = lexeme ++ returned ∧
      (returned = [] ∨ form = .comment ∧ returned = ['\r']) ∧
      copy'.cursor.ahead = returned ++ (separator token tokens ++ (setApart tokens ++ ending)) := by
  obtain ⟨rest', lexeme, returned, text, split, same, which, again, comment⟩ :=
    passes.again met spells tokens line
  have metAgain := copies.meets met text comment
  obtain ⟨token', copy', call, passes'⟩ := metAgain.takes again (Lexer.fits_alike copies.alike fits)
  refine ⟨token', copy', lexeme, returned, call, passes', same, which, ?_⟩
  have left := metAgain.here.symm.trans passes'.ahead
  rw [split] at left
  simpa using left.symm

/-- The kind of a lexeme in the copy: only a word that a colon follows has become a key. -/
theorem kind_lexeme {copy' : Lexer} {again : Token} {lexeme returned : List Char} {last : Token}
    (copies : Copies lexer copy (token :: tokens) ending) (line : ending = [] ∨ ending = ['\n'])
    (passes : lexer.Passes form c tail token after) (drained : after.drain = ⟨tokens ++ [last], none⟩)
    (more : ∀ token ∈ tokens, token.isEof = false) (eof : last.isEof = true)
    (passes' : copy.Passes form c lexeme again copy') (same : tail = lexeme ++ returned)
    (which : returned = [] ∨ form = .comment ∧ returned = ['\r'])
    (ahead : copy'.cursor.ahead = returned ++ (separator token tokens ++ (setApart tokens ++ ending))) :
    again.kind = token.kind ↔ ∀ next ∈ tokens.head?, ¬ WordBeforeColon token next := by
  obtain ⟨next, after', step, position⟩ := Lexer.next_of_drain drained
  by_cases name : form = .name
  · subst form
    obtain rfl : returned = [] := by simpa using which
    rw [List.append_nil] at same
    subst lexeme
    have noComment : token.kind ≠ .comment := by
      intro comment
      have known := passes.form
      rw [comment] at known
      cases known
    have firsts : ∀ follower, tokens.head? = some follower → ∃ d more, follower.text.toList = d :: more ∧
        (d = '\n' ∨ isBlank d = false) ∧ (d = ':' ↔ follower.kind = .colon) := by
      intro follower head
      rcases position with first | ⟨rfl, _⟩
      · cases first.symm.trans head
        obtain ⟨d, text, spelled, _, rest⟩ := step.first (more next (List.mem_of_head? head))
        exact ⟨d, text, spelled, rest⟩
      · cases head
    have colon := colon_separator line noComment firsts
    rw [← List.nil_append (separator _ _ ++ _), ← ahead] at colon
    -- in the copy a colon makes the name a key wherever it is the next token
    by_cases follows : ∃ follower, tokens.head? = some follower ∧ follower.kind = .colon
    · have key : again.kind = .key := passes'.kind.trans (copy.kindOf_name_key _ (colon.mpr follows))
      obtain ⟨follower, head, isColon⟩ := follows
      rw [key]
      have word := TokenKind.isWord_of_name passes.form
      constructor
      · rintro same _ _ ⟨isWord, _⟩
        exact word.mp isWord same.symm
      · intro none
        by_contra differs
        exact none follower head ⟨word.mpr fun key => differs key.symm, isColon⟩
    · have original : ¬ (after.cursor.ahead.dropWhile isInlineBlank).head? = some ':' := by
        intro behind
        have isColon := step.colon passes.running behind
        rcases position with first | ⟨_, rfl⟩
        · exact follows ⟨next, first, isColon⟩
        · simp [Token.isEof, isColon] at eof
      have kinds : again.kind = token.kind := by
        rw [passes'.kind, passes.kind]
        exact Lexer.kindOf_alike copies.alike fun _ =>
          ⟨rfl, iff_of_false (fun behind => follows (colon.mp behind)) original⟩
      exact iff_of_true kinds fun follower head before => follows ⟨follower, head, before.2⟩
  · have kinds : again.kind = token.kind := by
      rw [passes'.kind, passes.kind]
      exact Lexer.kindOf_alike copies.alike fun isName => absurd isName name
    refine iff_of_true kinds ?_
    rintro _ _ ⟨word, _⟩
    have known := TokenKind.form?_of_isWord word
    rw [passes.form] at known
    exact name (Option.some.inj known)

theorem alike_behind (copies : Copies lexer copy (token :: tokens) ending) {copy' : Lexer} {again : Token}
    (step : lexer.Step (.ok token) after) (step' : copy.Step (.ok again) copy')
    (kinds : again.kind = token.kind) : after.context.Alike copy'.context := by
  rw [step.context, step'.context]
  exact copies.alike.behind kinds

theorem behind_lexeme {copy' : Lexer} {again : Token} {lexeme returned : List Char}
    (copies : Copies lexer copy (token :: tokens) ending) (step : lexer.Step (.ok token) after)
    (known : token.kind.form? = some form) (call : copy.next = (.ok again, copy'))
    (passes' : copy.Passes form c lexeme again copy')
    (which : returned = [] ∨ form = .comment ∧ returned = ['\r'])
    (ahead : copy'.cursor.ahead = returned ++ (separator token tokens ++ (setApart tokens ++ ending)))
    (kinds : again.kind = token.kind) : Copies after copy' tokens ending where
  running := passes'.running
  alike := copies.alike_behind step (Lexer.step_of_next call) kinds
  started := by
    rw [passes'.cursor]
    exact copies.started_settled.advanceBy _
  ahead := by
    have carriage : isBlank '\r' = true := by decide
    refine ⟨returned ++ separator token tokens, by simpa using ahead, ?_, ?_⟩
    · intro d member
      rcases List.mem_append.mp member with inside | inside
      · rcases which with rfl | ⟨_, rfl⟩
        · cases inside
        · obtain rfl := List.mem_singleton.mp inside
          exact carriage
      · exact isBlank_separator token tokens d inside
    · intro feed
      -- only behind a comment is a line feed set, and there the text has one too
      have comment : token.kind = .comment := by
        by_contra other
        rcases which with rfl | ⟨rfl, _⟩
        · cases tokens <;> simp [separator, other] at feed
        · cases kind : token.kind <;> simp [kind, TokenKind.form?] at known
          exact other kind
      cases here : after.settled.cursor.ahead with
      | nil => exact Or.inl rfl
      | cons d more => exact Or.inr (Lexer.feed_mem_gap (step.lineEnd comment) here)

theorem rowBreak {source : String} {past : List Token} {last : Token}
    (copies : Copies lexer copy (token :: tokens) ending) (line : ending = [] ∨ ending = ['\n'])
    (step : lexer.Step (.ok token) after) (reached : Reached source (token :: past) after)
    (running : after.finished = false) (kind : token.kind = .newline)
    (drained : after.drain = ⟨tokens ++ [last], none⟩) (eof : last.isEof = true) :
    ∃ again copy', copy.next = (.ok again, copy') ∧ again.kind = .newline ∧
      Copies after copy' tokens ending := by
  obtain ⟨_, _, _, _, _, ends, _, _, _, text, _⟩ := step.rowBreak_inv kind
  obtain ⟨⟨frame, innermost, role⟩, _⟩ := Lexer.rowEnds_iff.mp ends
  obtain ⟨c, rest, _, met, _, _, goesOn, noComment⟩ := reached.behind_break running kind
  obtain ⟨next, after', stepNext, position⟩ := Lexer.next_of_drain drained
  obtain ⟨form, tail, spells, _, passes⟩ := stepNext.of_meets met
  cases tokens with
  | nil =>
    obtain rfl : next = last := by simpa using position
    simp [Token.isEof, passes.kind_ne] at eof
  | cons follower others =>
    obtain rfl : follower = next := by simpa using position
    obtain ⟨rest', _, _, text', _, _, _, _, comment⟩ := passes.again met spells others line
    obtain ⟨blank, ahead, space, _⟩ := copies.ahead
    have spaced : copy.cursor.ahead = (blank ++ ['\n', ' ']) ++ c :: rest' := by
      rw [ahead, setApart, text, ← text']
      simp [separator, kind]
    have blanks : ∀ d ∈ blank ++ ['\n', ' '], isBlank d = true := by
      have feed : isBlank '\n' = true := by decide
      have space' : isBlank ' ' = true := by decide
      intro d member
      rcases List.mem_append.mp member with inside | inside
      · exact space d inside
      · rcases List.mem_pair.mp inside with rfl | rfl
        · exact feed
        · exact space'
    obtain ⟨gap, here⟩ := Lexer.settled_of_blank copies.started.skipByteOrderMark spaced blanks
      (Lexer.isBlank_head_settled met.here)
    have breaks : copy.BreaksBefore c rest' := by
      refine ⟨by rw [gap]; simp, ?_⟩
      rw [Lexer.rowEnds_alike copies.alike comment]
      exact Lexer.rowEnds_iff.mpr ⟨⟨frame, innermost, role⟩, goesOn, noComment⟩
    obtain ⟨span, call⟩ := breaks.next copies.running here
    refine ⟨_, _, call, rfl, ?_⟩
    constructor
    · exact copies.running
    · exact copies.alike_behind step (Lexer.step_of_next call) kind.symm
    · exact copies.started_settled
    · exact ⟨[], by rw [text']; exact here, by simp, by simp⟩

theorem step {source : String} {past : List Token} {last : Token}
    (copies : Copies lexer copy (token :: tokens) ending) (line : ending = [] ∨ ending = ['\n'])
    (reached : Reached source past lexer) (call : lexer.next = (.ok token, after))
    (goesOn : token.isEof = false) (drained : after.drain = ⟨tokens ++ [last], none⟩)
    (more : ∀ token ∈ tokens, token.isEof = false) (eof : last.isEof = true) :
    ∃ again copy', copy.next = (.ok again, copy') ∧ again.isEof = false ∧
      (again.kind = token.kind ↔ ∀ next ∈ tokens.head?, ¬ WordBeforeColon token next) ∧
      (again.kind = token.kind → Copies after copy' tokens ending) := by
  have step := Lexer.step_of_next call
  have running := step.finished.trans goesOn
  by_cases kind : token.kind = .newline
  · obtain ⟨again, copy', callAgain, newline, next⟩ :=
      copies.rowBreak line step (reached.token call) running kind drained eof
    refine ⟨again, copy', callAgain, by simp [Token.isEof, newline], ?_, fun _ => next⟩
    refine iff_of_true (newline.trans kind.symm) ?_
    rintro _ _ ⟨word, _⟩
    rw [kind] at word
    cases word
  · cases step with
    | done | last => cases goesOn
    | rowBreak => exact absurd rfl kind
    | lexeme met spells fits passes =>
      obtain ⟨again, copy', _, _, callAgain, passes', same, which, ahead⟩ :=
        copies.lexeme line met spells fits passes
      refine ⟨again, copy', callAgain, by simp [Token.isEof, passes'.kind_ne], ?_, ?_⟩
      · exact copies.kind_lexeme line passes drained more eof passes' same which ahead
      · exact copies.behind_lexeme (Lexer.step_of_next call) passes.form callAgain passes' which ahead

theorem last (copies : Copies lexer copy [] ending) (line : ending = [] ∨ ending = ['\n'])
    (closed : lexer.frames = []) : ∃ place, copy.drain = ⟨[.atEnd place], none⟩ := by
  obtain ⟨blank, ahead, space, _⟩ := copies.ahead
  have feed : isBlank '\n' = true := by decide
  have nothing : copy.settled.cursor.ahead = [] := by
    unfold Lexer.settled
    rw [Cursor.ahead_advanceWhile, copies.started.skipByteOrderMark, ahead, List.dropWhile_eq_nil_iff]
    rcases line with rfl | rfl
    · simpa [setApart] using space
    · intro d member
      simp only [setApart, List.nil_append, List.mem_append, List.mem_singleton] at member
      rcases member with inside | rfl
      · exact space d inside
      · exact feed
  have frames := copies.alike.frames
  rw [Lexer.context, closed] at frames
  have none : copy.frames = [] := List.forall₂_nil_left_iff.mp frames
  have call := Lexer.next_of_nothing copies.running nothing
  unfold Lexer.finish at call
  simp only [Lexer.frames_settled, none] at call
  exact ⟨_, Lexer.drain_of_token call⟩

/-- The copy gives tokens of the same kinds exactly when no word has a colon right behind it. -/
theorem drain {source : String} {past : List Token} {last : Token}
    (copies : Copies lexer copy tokens ending) (line : ending = [] ∨ ending = ['\n'])
    (reached : Reached source past lexer) (running : lexer.finished = false)
    (drained : lexer.drain = ⟨tokens ++ [last], none⟩) (more : ∀ token ∈ tokens, token.isEof = false)
    (eof : last.isEof = true) :
    (copy.drain.error = none ∧ copy.drain.kinds = (tokens ++ [last]).map (·.kind)) ↔
      tokens.IsChain (¬ WordBeforeColon · ·) := by
  induction tokens generalizing lexer copy past with
  | nil =>
    obtain ⟨after, call, _⟩ := Lexer.drain_cons drained
    have closed : lexer.frames = [] := by
      cases Lexer.step_of_next call with
      | done ended => exact absurd running (by simp [ended])
      | last _ _ closed => exact closed
      | rowBreak => cases eof
      | lexeme _ _ _ passes => simp [Token.isEof, passes.kind_ne] at eof
    obtain ⟨place, same⟩ := copies.last line closed
    have kind : last.kind = .eof := by simpa [Token.isEof] using eof
    simp [same, TokenStream.kinds, Token.atEnd, kind]
  | cons token tokens ih =>
    have goesOn := more token (List.mem_cons_self ..)
    have others := fun next member => more next (List.mem_cons_of_mem token member)
    obtain ⟨after, call, ⟨isEof, _⟩ | ⟨_, ran, rest⟩⟩ := Lexer.drain_cons drained
    · exact absurd isEof (by simp [goesOn])
    · obtain ⟨again, copy', callAgain, going, kinds, next⟩ :=
        copies.step line reached call goesOn rest others eof
      rw [List.isChain_cons, ← kinds, Lexer.drain_of_token callAgain, going]
      by_cases same : again.kind = token.kind
      · rw [← ih (next same) (reached.token call) ran rest others]
        simp [TokenStream.prepend, TokenStream.kinds, same]
      · simp [TokenStream.prepend, TokenStream.kinds, same]

end Copies

theorem copies_ofText {source text : String} {tokens : List Token} {last : Token} {ending : List Char}
    (drained : (Lexer.ofText source).drain = ⟨tokens ++ [last], none⟩)
    (more : ∀ token ∈ tokens, token.isEof = false) (line : ending = [] ∨ ending = ['\n'])
    (same : text.toList = setApart tokens ++ ending) :
    Copies (.ofText source) (.ofText text) tokens ending where
  running := rfl
  alike := ⟨.nil, rfl⟩
  started := by
    refine ⟨rfl, fun _ => ?_⟩
    have ahead : (Lexer.ofText text).cursor.ahead = setApart tokens ++ ending := same
    rw [ahead]
    cases tokens with
    | nil => rcases line with rfl | rfl <;> simp [setApart]
    | cons token tokens =>
      obtain ⟨next, after, step, position⟩ := Lexer.next_of_drain drained
      obtain rfl : token = next := by simpa using position
      obtain ⟨c, tail, spelled, unmarked, _⟩ := step.first (more token (List.mem_cons_self ..))
      simpa [setApart, spelled] using unmarked
  ahead := ⟨[], same, by simp, by simp⟩

/-- Where a colon does not make the name before it a key, a line feed stands between them. -/
theorem feed_of_wordBeforeColon {source : String} {earlier later : List Token} {word colon : Token}
    (split : (tokenize source).tokens = earlier ++ word :: colon :: later)
    (before : WordBeforeColon word colon) :
    ∃ text, slice? source.toList word.span.stop colon.span.start = some text ∧ '\n' ∈ text := by
  have cut : (tokenize source).tokens = (earlier ++ [word]) ++ colon :: later := by simpa using split
  obtain ⟨lexer, after, reached, running, call⟩ := reached_of_token cut
  rw [List.reverse_append, List.reverse_singleton, List.singleton_append] at reached
  obtain ⟨isWord, isColon⟩ := before
  have name := TokenKind.form?_of_isWord isWord
  have unbroken : word.kind ≠ .newline := by
    intro newline
    simp [newline, TokenKind.isWord] at isWord
  obtain ⟨_, _, _, step, _⟩ := reached.before running
  have noColon : ¬ (lexer.cursor.ahead.dropWhile isInlineBlank).head? = some ':' := by
    intro behind
    cases step with
    | done | last | rowBreak => cases name
    | lexeme _ _ _ passes =>
      have form := passes.form.symm.trans name
      cases form
      exact (TokenKind.isWord_of_name name).mp isWord
        (passes.kind.trans (Lexer.kindOf_name_key _ _ behind))
  cases Lexer.step_of_next call with
  | done | last | rowBreak => cases isColon
  | @lexeme c rest _ _ _ _ met spells _ passes =>
    have form := passes.form
    rw [isColon] at form
    cases form
    obtain ⟨rfl, _⟩ := spells
    refine ⟨lexer.gap, ?_, ?_⟩
    · have slice := reached.slice_gap running unbroken
      rw [← Position.behind_offset, ← (reached.standing running).settled.place] at slice
      rw [passes.span]
      exact slice
    · by_contra plain
      have found := (Lexer.colonNext_iff (reached.started running (by simp))).mpr
      exact noColon (found ⟨by simp [met.here], plain⟩)

/-- The lexemes of a text without an error, set apart anew, have the same kinds exactly when no word has
a colon right behind it; where one has, a line feed of the text has been left out between them. A line
feed at the end makes no difference. -/
theorem tokenize_relaid (source : String) (complete : (tokenize source).error = none) (ending : String)
    (line : ending = "" ∨ ending = "\n") :
    (((tokenize (relaid (tokenize source).tokens ++ ending)).error = none ∧
        (tokenize (relaid (tokenize source).tokens ++ ending)).kinds = (tokenize source).kinds) ↔
      (tokenize source).tokens.IsChain (¬ WordBeforeColon · ·)) ∧
    ∀ earlier word colon later, (tokenize source).tokens = earlier ++ word :: colon :: later →
      WordBeforeColon word colon →
      ∃ text, slice? source.toList word.span.stop colon.span.start = some text ∧ '\n' ∈ text := by
  refine ⟨?_, fun _ _ _ _ => feed_of_wordBeforeColon⟩
  obtain ⟨past, lexer, after, reached, running, _, _, _, tokens⟩ := reached_of_complete complete
  generalize lexer.settled.cursor.place = place at tokens
  have more : ∀ token ∈ past.reverse, token.isEof = false := by
    intro token member
    obtain ⟨_, _, _, _, notEnd, _⟩ := (reached.standing running).layout.mem (List.mem_reverse.mp member)
    simp [Token.isEof, notEnd]
  generalize past.reverse = tokens' at tokens more
  have kept : (tokenize source).tokens.filter (!·.isEof) = tokens' := by
    rw [tokens, List.filter_append, List.filter_eq_self.mpr (by simpa using more)]
    simp [Token.isEof, Token.atEnd]
  have drained : (Lexer.ofText source).drain = ⟨tokens' ++ [.atEnd place], none⟩ := by
    rw [← tokens, ← complete]
    rfl
  have line' : ending.toList = [] ∨ ending.toList = ['\n'] := by
    rcases line with rfl | rfl <;> simp
  have text : (relaid (tokenize source).tokens ++ ending).toList = setApart tokens' ++ ending.toList := by
    simp [relaid, kept]
  have same := (copies_ofText drained more line' text).drain line' .start rfl drained more rfl
  have chain : (tokenize source).tokens.IsChain (¬ WordBeforeColon · ·) ↔
      tokens'.IsChain (¬ WordBeforeColon · ·) := by
    rw [tokens, List.isChain_append]
    simp [WordBeforeColon, Token.atEnd]
  rw [chain, ← same, ← tokens]
  rfl

/-- A reserved word above a colon becomes a key when the two come to stand on one line. -/
theorem relaid_colon_below_word :
    (tokenize "true\n:").error = none ∧
      ¬ ((tokenize (relaid (tokenize "true\n:").tokens ++ "")).error = none ∧
        (tokenize (relaid (tokenize "true\n:").tokens ++ "")).kinds = (tokenize "true\n:").kinds) := by
  have word : (Lexer.ofText "true\n:").next.1 = .ok ⟨.boolean, "true", ⟨0, 4, 1, 1⟩⟩ := by decide
  have colon : (Lexer.ofText "true\n:").next.2.next.1 = .ok ⟨.colon, ":", ⟨5, 6, 2, 1⟩⟩ := by decide
  have eof : (Lexer.ofText "true\n:").next.2.next.2.next.1 = .ok ⟨.eof, "", ⟨6, 6, 2, 2⟩⟩ := by decide
  have stream : tokenize "true\n:" = ⟨[⟨.boolean, "true", ⟨0, 4, 1, 1⟩⟩, ⟨.colon, ":", ⟨5, 6, 2, 1⟩⟩,
      ⟨.eof, "", ⟨6, 6, 2, 2⟩⟩], none⟩ := by
    rw [tokenize, Lexer.drain_of_next word, Lexer.drain_of_next colon, Lexer.drain_of_next eof]
    rfl
  have complete : (tokenize "true\n:").error = none := by rw [stream]
  refine ⟨complete, fun same => ?_⟩
  have chain := (tokenize_relaid "true\n:" complete "" (Or.inl rfl)).1.mp same
  rw [stream] at chain
  simp [WordBeforeColon, TokenKind.isWord] at chain

end DataLexer
