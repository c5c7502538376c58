import DataLexer.Proofs.Abreast
import DataLexer.Proofs.Start

namespace DataLexer

/-- A carriage return set before every line feed. -/
def withReturns (text : List Char) : List Char :=
  text.flatMap fun c => if c = '\n' then ['\r', '\n'] else [c]

/-- One line and column in two texts. -/
def Position.SamePlace (place other : Position) : Prop :=
  other.line = place.line ∧ other.column = place.column

def Span.SamePlace (span other : Span) : Prop := other.line = span.line ∧ other.column = span.column

/-- A token as it stands where lines end in carriage return and line feed. -/
structure Token.Returned (token copy : Token) : Prop where
  kind : copy.kind = token.kind
  text : copy.text = token.text
  line : copy.span.line = token.span.line
  column : copy.span.column = token.span.column + if token.kind = .newline then 1 else 0

structure LexError.Returned (error copy : LexError) : Prop where
  alike : error.Alike copy
  place : error.span.SamePlace copy.span
  opener : Option.Rel (fun opener other : Opener => opener.span.SamePlace other.span)
    error.opener? copy.opener?

@[simp] theorem withReturns_nil : withReturns [] = [] := rfl

@[simp] theorem withReturns_cons_feed (text : List Char) :
    withReturns ('\n' :: text) = '\r' :: '\n' :: withReturns text := rfl

theorem withReturns_cons {c : Char} (other : c ≠ '\n') (text : List Char) :
    withReturns (c :: text) = c :: withReturns text := by
  simp [withReturns, other]

theorem withReturns_append (before after : List Char) :
    withReturns (before ++ after) = withReturns before ++ withReturns after :=
  List.flatMap_append

theorem withReturns_of_plain {text : List Char} (plain : '\n' ∉ text) : withReturns text = text := by
  induction text with
  | nil => rfl
  | cons c text ih =>
    obtain ⟨first, rest⟩ := not_or.mp (mt List.mem_cons.mpr plain)
    rw [withReturns_cons (Ne.symm first), ih rest]

theorem withReturns_plain_append {lexeme : List Char} (plain : '\n' ∉ lexeme) (after : List Char) :
    withReturns (lexeme ++ after) = lexeme ++ withReturns after := by
  rw [withReturns_append, withReturns_of_plain plain]

theorem feed_mem_withReturns {text : List Char} : '\n' ∈ withReturns text ↔ '\n' ∈ text := by
  induction text with
  | nil => rfl
  | cons c text ih =>
    by_cases feed : c = '\n'
    · subst feed
      simp
    · rw [withReturns_cons feed, List.mem_cons, List.mem_cons, ih]

theorem looser_withReturns (text : List Char) : Looser text (withReturns text) := by
  intro d head
  cases text with
  | nil => cases head
  | cons c text =>
    by_cases feed : c = '\n'
    · subst feed
      cases head
      exact Or.inr (by decide)
    · rw [withReturns_cons feed] at head
      exact Or.inl head

theorem takeWhile_isBlank_withReturns (text : List Char) :
    (withReturns text).takeWhile isBlank = withReturns (text.takeWhile isBlank) ∧
      (withReturns text).dropWhile isBlank = withReturns (text.dropWhile isBlank) := by
  have feed : isBlank '\n' = true := by decide
  have returned : isBlank '\r' = true := by decide
  induction text with
  | nil => exact ⟨rfl, rfl⟩
  | cons c text ih =>
    by_cases same : c = '\n'
    · subst same
      simp [feed, returned, ih]
    · cases blank : isBlank c <;> simp [withReturns_cons same, blank, ih]

theorem colonNext_withReturns (text : List Char) : ColonNext (withReturns text) ↔ ColonNext text := by
  have feed : isInlineBlank '\n' = false := by decide
  have returned : isInlineBlank '\r' = true := by decide
  unfold ColonNext
  induction text with
  | nil => exact Iff.rfl
  | cons c text ih =>
    by_cases same : c = '\n'
    · subst same
      simp [feed, returned]
    · rw [withReturns_cons same]
      cases inline : isInlineBlank c <;> simp [inline, ih]

namespace Reading

theorem LineEnd.withReturns {text : List Char} (ended : LineEnd text) (plain : '\r' ∉ text) :
    LineEnd (withReturns text) ∧ (DataLexer.withReturns text).head? ≠ some '\n' := by
  cases ended with
  | text => exact ⟨.text, by simp⟩
  | feed => exact ⟨.returned, by simp⟩
  | returned => simp at plain

/-- A string without an end has none either when its line ends in carriage return and line feed: a
backslash that takes the carriage return still stands before the line feed. -/
theorem stringTail_withReturns {rest : List Char} (opened : (stringTail rest).2 = false)
    (plain : '\r' ∉ rest) : (stringTail (withReturns rest)).2 = false := by
  fun_induction stringTail rest with
  | case1 => rfl
  | case2 => cases opened
  | case3 => rfl
  | case4 => simp at plain
  | case5 => rfl
  | case6 => rfl
  | case7 c rest feed tail closed read ih =>
    have inner : '\r' ∉ rest := fun inside => plain (by simp [inside])
    rw [withReturns_cons (by decide), withReturns_cons (fun same => feed same), stringTail.eq_7 _ _ feed]
    exact ih (by rw [read]; exact opened) inner
  | case8 c rest quote feed _ alone escaped escape tail closed read ih =>
    have inner : '\r' ∉ rest := fun inside => plain (by simp [inside])
    have returned : c ≠ '\r' := fun same => plain (by simp [same])
    have plainChar : c ≠ '\\' := ne_backslash alone escape
    rw [withReturns_cons feed, stringTail_cons quote feed plainChar (fun same => absurd same returned)]
    exact ih (by rw [read]; exact opened) inner

end Reading

theorem Form.Stops.withReturns {form : Form} {tail after : List Char} (stops : form.Stops tail after)
    (plain : '\r' ∉ after) : form.Stops tail (withReturns after) := by
  cases form with
  | comment =>
    obtain ⟨ended, noFeed⟩ := stops.1.withReturns plain
    exact ⟨ended, fun feed => absurd feed noFeed⟩
  | number =>
    refine Reading.numberTail_of_looser stops (looser_withReturns after) ?_
    rintro rest rest' rfl same
    rw [withReturns_cons (by decide)] at same
    obtain ⟨_, rfl⟩ := List.cons.inj same
    exact looser_withReturns rest
  | name =>
    intro d head
    rcases looser_withReturns after d head with same | blank
    · exact stops d same
    · exact isNameChar_of_isBlank blank
  | string | colon | comma | opening | closing => trivial

theorem beginAlike_withReturns {text : List Char} (plain : '\r' ∉ text)
    (solid : ∀ c, text.head? = some c → isBlank c = false) : BeginAlike text (withReturns text) := by
  cases text with
  | nil => exact .nothing
  | cons c rest =>
    have feed : c ≠ '\n' := fun same => absurd (solid c rfl) (by rw [same]; decide)
    have inner : '\r' ∉ rest := fun inside => plain (List.mem_cons_of_mem c inside)
    cases reading : Reading.ofText c rest with
    | lexeme form tail =>
      have spells := Reading.ofText_eq_lexeme_iff.mp reading
      have lexeme := spells.no_feed
      obtain ⟨after, rfl⟩ := spells.append
      have later : '\r' ∉ after := fun inside => inner (List.mem_append_right _ inside)
      rw [← List.cons_append, withReturns_plain_append lexeme]
      exact .of_stops spells (·.withReturns later) fun _ => colonNext_withReturns after
    | unterminated tail =>
      obtain ⟨rfl, opened⟩ := Reading.ofText_eq_unterminated reading
      rw [withReturns_cons feed]
      have closed : (Reading.stringTail rest).2 = false := by rw [opened]
      exact .unterminated closed (Reading.stringTail_withReturns closed inner)
    | unexpected =>
      rw [withReturns_cons feed]
      exact .unexpected reading (Reading.ofText_unexpected_of_looser reading (looser_withReturns rest))

theorem Position.SamePlace.after_withReturns {place other : Position} (same : place.SamePlace other)
    (text : List Char) : (place.after text).SamePlace (other.after (withReturns text)) := by
  induction text generalizing place other with
  | nil => exact same
  | cons c text ih =>
    obtain ⟨line, column⟩ := same
    by_cases feed : c = '\n'
    · subst feed
      have feeds : (place.next '\n').SamePlace ((other.next '\r').next '\n') :=
        ⟨by simp [next, line], rfl⟩
      exact ih feeds
    · rw [withReturns_cons feed]
      have moves : (place.next c).SamePlace (other.next c) :=
        ⟨by simp [next, line, feed], by simp [next, column, feed]⟩
      exact ih moves

theorem Position.samePlace_behind_withReturns (text : List Char) :
    (behind text).SamePlace (behind (withReturns text)) := by
  by_cases mark : text.head? = some '\uFEFF'
  · obtain ⟨rest, rfl⟩ := List.head?_eq_some_iff.mp mark
    rw [withReturns_cons (by decide)]
    have same : SamePlace { offset := '\uFEFF'.utf8Size } { offset := '\uFEFF'.utf8Size } := ⟨rfl, rfl⟩
    exact same.after_withReturns rest
  · have unmarked : (withReturns text).head? ≠ some '\uFEFF' :=
      fun head => mark ((looser_withReturns text).head (by decide) head)
    have same : SamePlace {} {} := ⟨rfl, rfl⟩
    rw [behind_of_head mark, behind_of_head unmarked]
    exact same.after_withReturns text

/-- Cursors at the same place of a text and of the same text with carriage returns. -/
structure Cursor.Returned (cursor copy : Cursor) : Prop where
  started : cursor.Started
  copyStarted : copy.Started
  read : copy.read = withReturns cursor.read
  ahead : copy.ahead = withReturns cursor.ahead

theorem Cursor.Returned.place {cursor copy : Cursor} (returned : cursor.Returned copy) :
    cursor.place.SamePlace copy.place := by
  rw [returned.started.place, returned.copyStarted.place, returned.read]
  exact Position.samePlace_behind_withReturns cursor.read

namespace Lexer

structure Returned (lexer copy : Lexer) : Prop where
  running : lexer.finished = false
  copyRunning : copy.finished = false
  alike : lexer.context.Alike copy.context
  openers : List.Forall₂ (fun opener other : Opener => opener.span.SamePlace other.span)
    lexer.context.openers copy.context.openers
  cursor : lexer.cursor.Returned copy.cursor
  plain : '\r' ∉ lexer.cursor.ahead

namespace Returned

variable {lexer copy : Lexer}

theorem gap (returned : lexer.Returned copy) : copy.gap = withReturns lexer.gap := by
  rw [gap_of_started returned.cursor.started, gap_of_started returned.cursor.copyStarted,
    returned.cursor.ahead, (takeWhile_isBlank_withReturns _).1]

theorem settled (returned : lexer.Returned copy) : lexer.settled.cursor.Returned copy.settled.cursor where
  started := started_settled returned.cursor.started
  copyStarted := started_settled returned.cursor.copyStarted
  read := by
    rw [read_settled_of_started returned.cursor.started,
      read_settled_of_started returned.cursor.copyStarted, returned.gap, returned.cursor.read,
      withReturns_append]
  ahead := by
    rw [ahead_settled_of_started returned.cursor.started,
      ahead_settled_of_started returned.cursor.copyStarted, returned.cursor.ahead,
      (takeWhile_isBlank_withReturns _).2]

theorem plain_settled (returned : lexer.Returned copy) : '\r' ∉ lexer.settled.cursor.ahead := by
  intro inside
  have ahead := gap_append_of_started returned.cursor.started
  exact returned.plain (ahead ▸ List.mem_append_right _ inside)

theorem abreast (returned : lexer.Returned copy) : lexer.Abreast copy where
  running := returned.running
  copyRunning := returned.copyRunning
  alike := returned.alike
  ahead := by
    rw [returned.settled.ahead]
    exact beginAlike_withReturns returned.plain_settled fun _ => lexer.solid_settled
  feeds := by
    intro _
    rw [returned.gap]
    exact feed_mem_withReturns

/-- What tokens of one kind leave behind, the place behind them given. -/
theorem behind (returned : lexer.Returned copy) {after after' : Lexer} {token token' : Token}
    (running : after.finished = false) (running' : after'.finished = false)
    (context : after.context = lexer.context.behind token)
    (context' : after'.context = copy.context.behind token') (kind : token'.kind = token.kind)
    (opens : ∀ delimiter, token.kind.opens? = some delimiter → token.span.SamePlace token'.span)
    (cursor : after.cursor.Returned after'.cursor) (plain : '\r' ∉ after.cursor.ahead) :
    after.Returned after' where
  running := running
  copyRunning := running'
  alike := by
    rw [context, context']
    exact returned.alike.behind kind
  openers := by
    rw [context, context']
    exact Context.forall₂_openers_behind returned.openers kind opens
  cursor := cursor
  plain := plain

theorem lexeme (returned : lexer.Returned copy) {after after' : Lexer} {form : Form} {c : Char}
    {tail : List Char} {token token' : Token} (passes : lexer.Passes form c tail token after)
    (passes' : copy.Passes form c tail token' after')
    (spells : form.Spells c (tail ++ after.cursor.ahead) tail) (kind : token'.kind = token.kind) :
    token.Returned token' ∧ after.Returned after' := by
  have settled := returned.settled
  have place : token.span.SamePlace token'.span := by
    rw [passes.span, passes'.span]
    exact settled.place
  constructor
  · refine ⟨kind, by rw [passes.text, passes'.text], place.1, ?_⟩
    rw [if_neg passes.kind_ne.2]
    exact place.2
  · have ahead := settled.ahead
    rw [passes.ahead, passes'.ahead, withReturns_plain_append spells.no_feed] at ahead
    refine returned.behind passes.running passes'.running passes.context passes'.context kind
      (fun _ _ => place) ?_ ?_
    · constructor
      · exact passes.started returned.cursor.started
      · exact passes'.started returned.cursor.copyStarted
      · rw [passes.read, passes'.read, settled.read, withReturns_append,
          withReturns_of_plain spells.no_feed]
      · exact List.append_cancel_left ahead
    · intro inside
      exact returned.plain_settled (by rw [passes.ahead]; exact List.mem_append_right _ inside)

theorem rowBreak (returned : lexer.Returned copy) {before after before' after' : List Char}
    {span span' : Span} (gap : lexer.gap = before ++ '\n' :: after) (fresh : '\n' ∉ before)
    (place : span = (lexer.cursor.skipByteOrderMark.place.after before).upTo
      (lexer.cursor.skipByteOrderMark.place.after (before ++ ['\n'])))
    (gap' : copy.gap = before' ++ '\n' :: after') (fresh' : '\n' ∉ before')
    (place' : span' = (copy.cursor.skipByteOrderMark.place.after before').upTo
      (copy.cursor.skipByteOrderMark.place.after (before' ++ ['\n']))) :
    Token.Returned ⟨.newline, "\n", span⟩ ⟨.newline, "\n", span'⟩ ∧
      lexer.settled.endRow.Returned copy.settled.endRow := by
  constructor
  · -- the carriage return set before the line feed is the one column between the two
    have same : before' = before ++ ['\r'] := by
      have kept {text : List Char} (plain : '\n' ∉ text) : ∀ c ∈ text, (c != '\n') = true :=
        fun c inside => by simpa using ne_of_mem_of_not_mem inside plain
      have split : before' ++ '\n' :: after' = (before ++ ['\r']) ++ '\n' :: withReturns after := by
        rw [← gap', returned.gap, gap, withReturns_plain_append fresh, withReturns_cons_feed]
        simp
      have first := congrArg (List.takeWhile (· != '\n')) split
      rw [List.takeWhile_append_of_pos (kept fresh'),
        List.takeWhile_append_of_pos (kept (by simpa using fresh))] at first
      simpa using first
    have found := returned.cursor.place.after_withReturns before
    rw [withReturns_of_plain fresh] at found
    rw [returned.cursor.started.skipByteOrderMark] at place
    rw [returned.cursor.copyStarted.skipByteOrderMark, same, Position.after_append copy.cursor.place before]
      at place'
    obtain ⟨line, column⟩ := found
    refine ⟨rfl, rfl, ?_, ?_⟩
    · simpa [place, place', Position.upTo, Position.next] using line
    · simpa [place, place', Position.upTo, Position.next] using column
  · exact returned.behind returned.running returned.copyRunning (context_endRow lexer span)
      (context_endRow copy span') rfl (fun _ opens => by cases opens) returned.settled
      returned.plain_settled

theorem error (returned : lexer.Returned copy) {error error' : LexError} {after after' : Lexer}
    (call : lexer.next = (.error error, after)) (call' : copy.next = (.error error', after'))
    (alike : error.Alike error')
    (openers : error.opener? = none ∧ error'.opener? = none ∨
      error.opener? = lexer.context.openers.head? ∧ error'.opener? = copy.context.openers.head?) :
    error.Returned error' where
  alike := alike
  place := by
    obtain ⟨line, column⟩ := (step_of_next call).error_place
    obtain ⟨line', column'⟩ := (step_of_next call').error_place
    obtain ⟨sameLine, sameColumn⟩ := returned.settled.place
    exact ⟨by rw [line, line', sameLine], by rw [column, column', sameColumn]⟩
  opener := by
    rcases openers with ⟨none, none'⟩ | ⟨first, first'⟩
    · rw [none, none']
      exact .none
    · rw [first, first']
      have openers := returned.openers
      generalize lexer.context.openers = opened at openers
      generalize copy.context.openers = opened' at openers
      cases openers with
      | nil => exact .none
      | cons same _ => exact .some same

/-- One call keeps a lexer and its copy together. -/
theorem step (returned : lexer.Returned copy) :
    (∃ error error' after after', lexer.next = (.error error, after) ∧
      copy.next = (.error error', after') ∧ error.Returned error') ∨
    ∃ token token' after after', lexer.next = (.ok token, after) ∧ copy.next = (.ok token', after') ∧
      token.Returned token' ∧ token'.isEof = token.isEof ∧
      (token.isEof = false → after.Returned after') := by
  have together := returned.abreast.next
  generalize call : lexer.next = result at together
  generalize call' : copy.next = result' at together
  cases together with
  | last =>
    obtain ⟨line, column⟩ := returned.settled.place
    exact Or.inr ⟨_, _, _, _, rfl, rfl, ⟨rfl, rfl, line, column⟩, rfl, fun more => by cases more⟩
  | rowBreak gap fresh place gap' fresh' place' =>
    obtain ⟨tokens, next⟩ := returned.rowBreak gap fresh place gap' fresh' place'
    exact Or.inr ⟨_, _, _, _, rfl, rfl, tokens, rfl, fun _ => next⟩
  | lexeme passes passes' spells kind =>
    obtain ⟨tokens, next⟩ := returned.lexeme passes passes' spells kind
    exact Or.inr ⟨_, _, _, _, rfl, rfl, tokens, by rw [Token.isEof, kind]; rfl, fun _ => next⟩
  | error alike openers =>
    exact Or.inl ⟨_, _, _, _, rfl, rfl, returned.error call call' alike openers⟩

end Returned

theorem returned_atStart {source copy : String} (plain : '\r' ∉ source.toList)
    (text : copy.toList = withReturns source.toList) : (atStart source).Returned (atStart copy) := by
  have cursor : (atStart copy).cursor.read = withReturns (atStart source).cursor.read ∧
      (atStart copy).cursor.ahead = withReturns (atStart source).cursor.ahead ∧
      '\r' ∉ (atStart source).cursor.ahead := by
    rcases cursor_atStart source with ⟨read, ahead, unmarked⟩ | ⟨read, marked⟩
    · rcases cursor_atStart copy with ⟨read', ahead', _⟩ | ⟨_, marked'⟩
      · rw [read, read', ahead, ahead', text]
        exact ⟨rfl, rfl, plain⟩
      · refine absurd ((looser_withReturns source.toList).head (by decide) ?_) unmarked
        rw [← text, marked']
        rfl
    · rw [marked, withReturns_cons (by decide)] at text
      rcases cursor_atStart copy with ⟨_, _, unmarked'⟩ | ⟨read', marked'⟩
      · exact absurd (by rw [text]; rfl) unmarked'
      · rw [marked'] at text
        rw [marked] at plain
        rw [read, read']
        exact ⟨rfl, (List.cons.inj text).2, fun inside => plain (List.mem_cons_of_mem _ inside)⟩
  obtain ⟨read, ahead, later⟩ := cursor
  exact {
    running := rfl
    copyRunning := rfl
    alike := .refl {}
    openers := .nil
    cursor := ⟨started_atStart source, started_atStart copy, read, ahead⟩
    plain := later }

end Lexer

/-- A text without carriage returns is read the same when each line feed gets one before it: the tokens
agree in kind, text, line and column, a row break one column further, and so do an error and the bracket
that it names. -/
theorem tokenize_withReturns (source : String) (plain : '\r' ∉ source.toList) :
    List.Forall₂ Token.Returned (tokenize source).tokens
        (tokenize (String.ofList (withReturns source.toList))).tokens ∧
      Option.Rel LexError.Returned (tokenize source).error
        (tokenize (String.ofList (withReturns source.toList))).error := by
  have start : (Lexer.atStart source).Returned
      (Lexer.atStart (String.ofList (withReturns source.toList))) :=
    Lexer.returned_atStart plain String.toList_ofList
  rw [← Lexer.drain_atStart, ← Lexer.drain_atStart]
  exact Lexer.drain_related (fun _ _ returned => returned.step) start

/-- Two rows of a list that is never closed. -/
theorem tokenize_withReturns_rows : '\r' ∉ "table(a)[1\n2".toList ∧
    List.Forall₂ Token.Returned (tokenize "table(a)[1\n2").tokens (tokenize "table(a)[1\r\n2").tokens ∧
      Option.Rel LexError.Returned (tokenize "table(a)[1\n2").error
        (tokenize "table(a)[1\r\n2").error := by
  have plain : '\r' ∉ "table(a)[1\n2".toList := by decide
  have text : String.ofList (withReturns "table(a)[1\n2".toList) = "table(a)[1\r\n2" := by decide
  have same := tokenize_withReturns "table(a)[1\n2" plain
  rw [text] at same
  exact ⟨plain, same⟩

end DataLexer
