import DataLexer.Proofs.Cover
import DataLexer.Proofs.History

namespace DataLexer

/-- A row break belongs behind the token `last` and before what starts at the byte `next`: `last` stands
directly in a list of rows and is not its bracket, what follows does not end the list, and a line feed is
between them. The tokens before `last` are given latest first. -/
structure RowBreakDue (source : String) (last : Token) (earlier : List Token) (ends : Prop) (next : Nat) :
    Prop where
  rows : ∃ opening, (unmatched (last :: earlier)).head? = some opening ∧ OpensRows opening ∧
    last :: earlier ≠ opening
  goesOn : ¬ ends
  feed : ∃ text, slice? source.toList last.span.stop next = some text ∧ '\n' ∈ text

/-- The first line feed from the byte `start` on. -/
def Span.IsFirstFeed (span : Span) (source : String) (start : Nat) : Prop :=
  ∃ before gap after, source.toList = before ++ gap ++ '\n' :: after ∧ byteLength before = start ∧
    '\n' ∉ gap ∧
    span = (Position.behind (before ++ gap)).upTo (Position.behind (before ++ gap ++ ['\n']))

/-- The tokens between `last` and what starts at the byte `next` hold a row break exactly when one is
due: one, behind all comments, at the first line feed behind them. -/
structure BreaksRows (source : String) (last : Token) (earlier between : List Token) (ends : Prop)
    (next : Nat) : Prop where
  due : RowBreakDue source last earlier ends next → ∃ comments feed, between = comments ++ [feed] ∧
    (∀ token ∈ comments, token.kind = .comment) ∧ feed.kind = .newline ∧
    feed.span.IsFirstFeed source (comments.getLast?.getD last).span.stop
  undue : ¬ RowBreakDue source last earlier ends next → ∀ token ∈ between, token.kind ≠ .newline

def LexError.isEndOfInput : LexError → Bool
  | unbalancedDelimiter none _ _ => true
  | _ => false

namespace Lexer

theorem Step.significant {lexer after : Lexer} {token : Token} (step : Step lexer (.ok token) after)
    {c : Char} {rest : List Char} (meets : lexer.Meets c rest)
    (noComment : Reading.startsComment c rest = false) : token.isSignificant = true := by
  obtain ⟨form, tail, spells, _, passes⟩ := step.of_meets meets
  have other : token.kind ≠ .comment := by
    intro comment
    have form := passes.form
    rw [comment] at form
    cases form
    exact absurd spells.1 (by simp [noComment])
  simp [Token.isSignificant, other, passes.kind_ne]

end Lexer

namespace Reached

variable {source : String} {past between : List Token} {lexer : Lexer}

/-- Behind a significant token stand comments, and behind them at most one row break. -/
theorem since_significant (reached : Reached source (between ++ past) lexer)
    (running : lexer.finished = false) (insignificant : ∀ token ∈ between, token.isSignificant = false) :
    (∀ token ∈ between, token.kind = .comment) ∨
      ∃ feed comments, between = feed :: comments ∧ feed.kind = .newline ∧
        ∀ token ∈ comments, token.kind = .comment := by
  induction between generalizing lexer with
  | nil => exact Or.inl (by simp)
  | cons token between ih =>
    obtain ⟨before, earlier, ran, step, more⟩ := reached.before running
    have inner := fun other member => insignificant other (List.mem_cons_of_mem token member)
    have first := insignificant token (List.mem_cons_self ..)
    rcases ih earlier ran inner with comments | ⟨feed, comments, rfl, kind, _⟩
    · have kind : token.kind = .comment ∨ token.kind = .newline := by
        have notEnd : token.kind ≠ .eof := by simpa [Token.isEof] using more
        rw [Token.insignificant_iff] at first
        tauto
      rcases kind with comment | newline
      · exact Or.inl (List.forall_mem_cons.mpr ⟨comment, comments⟩)
      · exact Or.inr ⟨token, between, rfl, newline, comments⟩
    · obtain ⟨_, _, _, meets, _, _, _, noComment⟩ := earlier.behind_break ran kind
      exact absurd (step.significant meets noComment) (by simp [first])

/-- A row has begun in the innermost bracket when the tokens say so. -/
theorem rows_of_begun (reached : Reached source past lexer) {opening : List Token}
    (opened : (unmatched past).head? = some opening) (rows : OpensRows opening)
    (begun : RowBegun past opening) :
    ∃ frame, lexer.frames.head? = some frame ∧ frame.role = .rows true := by
  obtain ⟨frame, innermost, records⟩ := forall₂_head? reached.tells.frames.flip opened
  cases opening with
  | nil => exact records.elim
  | cons token before =>
    obtain ⟨started, role⟩ := records.2.2.2.mpr rows
    have same := reached.tells.begun frame _ started innermost opened role
    exact ⟨frame, innermost, by rw [role, same.mpr begun]⟩

theorem begun_of_rows (reached : Reached source past lexer) {frame : Frame}
    (innermost : lexer.frames.head? = some frame) (role : frame.role = .rows true) :
    ∃ opening, (unmatched past).head? = some opening ∧ OpensRows opening ∧ RowBegun past opening := by
  obtain ⟨opening, opened, records⟩ := forall₂_head? reached.tells.frames innermost
  have same := reached.tells.begun frame opening true innermost opened role
  cases opening with
  | nil => exact records.elim
  | cons token before => exact ⟨_, opened, records.2.2.2.mp ⟨true, role⟩, same.mp rfl⟩

/-- The bracket of a list of rows is a square one. -/
theorem fits_of_rows (reached : Reached source past lexer) {frame : Frame} {started : Bool}
    (innermost : lexer.frames.head? = some frame) (role : frame.role = .rows started) :
    lexer.Fits (.closing .array) := by
  obtain ⟨opening, _, records⟩ := forall₂_head? reached.tells.frames innermost
  cases opening with
  | nil => exact records.elim
  | cons token before =>
    obtain ⟨opens, _, _, rows⟩ := records
    have kind := (rows.mp ⟨started, role⟩).1
    rw [kind] at opens
    simp only [Lexer.Fits, innermost, Option.map_some]
    exact opens.symm

end Reached

section Between

variable {source : String} {last : Token} {earlier between : List Token} {lexer : Lexer} {ends : Prop}
  {c : Char} {rest : List Char}

/-- Where a lexeme is met behind comments, no row break was due: the lexer would have given it. -/
theorem not_due_of_meets (reached : Reached source (between ++ last :: earlier) lexer)
    (meets : lexer.Meets c rest) (comments : ∀ token ∈ between, token.kind = .comment)
    (significant : last.isSignificant = true) (noComment : Reading.startsComment c rest = false)
    (same : lexer.Fits (.closing .array) → (ends ↔ c = ']')) :
    ¬ RowBreakDue source last earlier ends (byteLength lexer.settled.cursor.read) := by
  rintro ⟨⟨opening, opened, rows, notIt⟩, goesOn, text, cut, feed⟩
  have insignificant : ∀ token ∈ between, token.isSignificant = false :=
    fun token member => Token.insignificant_iff.mpr (Or.inl (comments token member))
  have begun : RowBegun (between ++ last :: earlier) opening := by
    refine ⟨by rwa [lastSignificant_append insignificant significant], ?_⟩
    rw [sinceSignificant_append insignificant significant]
    intro token member
    simp [comments token member]
  rw [← unmatched_append insignificant] at opened
  obtain ⟨frame, innermost, role⟩ := reached.rows_of_begun opened rows begun
  have other : c ≠ ']' := mt (same (reached.fits_of_rows innermost role)).mpr goesOn
  -- behind the token itself the line feed is part of the blank text ahead, behind a comment it ends its line
  refine meets.unbroken ⟨?_, Lexer.rowEnds_iff.mpr ⟨⟨frame, innermost, role⟩, other, noComment⟩⟩
  cases between with
  | nil =>
    have solid := (Token.isSignificant_iff.mp significant).2.1
    cases (reached.slice_gap meets.running solid).symm.trans cut
    exact feed
  | cons token between =>
    obtain ⟨_, _, _, step, _⟩ := reached.before meets.running
    exact Lexer.feed_mem_gap (step.lineEnd (comments token (List.mem_cons_self ..))) meets.here

/-- The row break that stands behind comments was due, and it stands at the first line feed. -/
theorem due_of_break {feed : Token} (reached : Reached source (feed :: (between ++ last :: earlier)) lexer)
    (running : lexer.finished = false) (kind : feed.kind = .newline)
    (comments : ∀ token ∈ between, token.kind = .comment) (significant : last.isSignificant = true)
    (goesOn : ¬ ends) :
    RowBreakDue source last earlier ends (byteLength lexer.settled.cursor.read) ∧
      feed.span.IsFirstFeed source (between.head?.getD last).span.stop := by
  obtain ⟨before, earlierReached, ran, step, _⟩ := reached.before running
  obtain ⟨c, rest, blank, behind, here, breaks, gap, fresh, span, _, rfl⟩ := step.rowBreak_inv kind
  obtain ⟨⟨frame, innermost, role⟩, _⟩ := Lexer.rowEnds_iff.mp breaks
  have insignificant : ∀ token ∈ between, token.isSignificant = false :=
    fun token member => Token.insignificant_iff.mpr (Or.inl (comments token member))
  have standing := earlierReached.standing ran
  have unmarked := standing.skipByteOrderMark_eq (by simp)
  have read := earlierReached.read_settled ran (by simp)
  have whole := standing.settled.whole
  have started : before.settled.endRow.cursor.Started := standing.started
  rw [(Lexer.settled_of_started started here (Lexer.isBlank_head_settled here)).2]
  constructor
  · obtain ⟨opening, opened, rows, begun⟩ := earlierReached.begun_of_rows innermost role
    rw [unmatched_append insignificant] at opened
    have notIt := begun.1
    rw [lastSignificant_append insignificant significant] at notIt
    refine ⟨⟨opening, opened, rows, notIt⟩, goesOn, ?_⟩
    have member : last ∈ between ++ last :: earlier := by simp
    obtain ⟨front, tail, text, _, _, place⟩ := standing.layout.mem member
    have slice :=
      slice?_append (front ++ last.text.toList) (tail ++ before.gap) before.settled.cursor.ahead
    have same : front ++ last.text.toList ++ (tail ++ before.gap) = before.settled.cursor.read := by
      rw [read, text, List.append_assoc _ tail]
    have stop : last.span.stop = byteLength (front ++ last.text.toList) := by
      rw [place]
      exact Position.behind_offset _
    rw [same, whole, ← stop] at slice
    exact ⟨_, slice, by rw [gap]; simp⟩
  · have stop : (between.head?.getD last).span.stop = byteLength before.cursor.read := by
      cases between with
      | nil => exact earlierReached.stop ran (Token.isSignificant_iff.mp significant).2.1
      | cons token between =>
        refine earlierReached.stop ran ?_
        simp [comments token (List.mem_cons_self ..)]
    have marked : before.cursor.Started := by
      rw [← unmarked]
      exact Cursor.started_skipByteOrderMark standing.place
    have ahead : before.cursor.ahead = blank ++ ['\n'] ++ (behind ++ before.settled.cursor.ahead) := by
      rw [← unmarked, ← before.gap_append_settled, gap]
      simp
    refine ⟨before.cursor.read, blank, behind ++ before.settled.cursor.ahead, ?_, stop.symm, fresh, ?_⟩
    · rw [← standing.whole, ahead]
      simp
    · rw [span, unmarked, marked.after (by rw [ahead, List.append_assoc]), marked.after ahead,
        List.append_assoc]

theorem breaksRows_of_meets (reached : Reached source (between ++ last :: earlier) lexer)
    (meets : lexer.Meets c rest) (insignificant : ∀ token ∈ between, token.isSignificant = false)
    (significant : last.isSignificant = true) (noComment : Reading.startsComment c rest = false)
    (same : lexer.Fits (.closing .array) → (ends ↔ c = ']')) :
    BreaksRows source last earlier between.reverse ends (byteLength lexer.settled.cursor.read) := by
  rcases reached.since_significant meets.running insignificant with
    comments | ⟨feed, comments, rfl, kind, plain⟩
  · refine ⟨fun due => ?_, fun _ token member => ?_⟩
    · exact absurd due (not_due_of_meets reached meets comments significant noComment same)
    · simp [comments token (List.mem_reverse.mp member)]
  · obtain ⟨_, _, frame, met, innermost, role, other, _⟩ :=
      Reached.behind_break reached meets.running kind
    obtain ⟨rfl, rfl⟩ := List.cons.inj (meets.here.symm.trans met.here)
    have goesOn : ¬ ends := mt (same (reached.fits_of_rows innermost role)).mp other
    obtain ⟨due, first⟩ := due_of_break reached meets.running kind plain significant goesOn
    refine ⟨fun _ => ⟨comments.reverse, feed, by simp, by simpa using plain, kind, ?_⟩,
      fun undue => absurd due undue⟩
    rwa [List.getLast?_reverse]

end Between

namespace Lexer

theorem Step.meets {lexer after : Lexer} {token : Token} (step : Step lexer (.ok token) after)
    (significant : token.isSignificant = true) :
    ∃ c rest, lexer.Meets c rest ∧ Reading.startsComment c rest = false ∧
      (token.kind = .arrayClose ↔ c = ']') ∧
      token.span.start = lexer.settled.cursor.place.offset := by
  cases step with
  | done | last | rowBreak => cases significant
  | @lexeme c rest tail form _ _ meets spells _ passes =>
    refine ⟨c, rest, meets, ?_, ?_, by rw [passes.span]; rfl⟩
    · refine Bool.eq_false_iff.mpr fun starts => ?_
      rw [spells.startsComment_iff.mp starts] at passes
      have kind : token.kind = .comment := passes.kind
      simp [Token.isSignificant, kind] at significant
    · constructor
      · intro closes
        have form := passes.form
        rw [closes] at form
        cases form
        exact spells.1
      · intro bracket
        have closing : (Form.closing .array).Spells c rest [] := ⟨bracket, rfl⟩
        have kind := passes.kind
        rwa [(spells.unique closing).1] at kind

/-- What cannot be read starts where the lexer meets it, and it does not end a list. -/
theorem Step.meets_of_error {lexer after : Lexer} {error : LexError}
    (step : Step lexer (.error error) after) (more : error.isEndOfInput = false) :
    ∃ c rest, lexer.Meets c rest ∧ Reading.startsComment c rest = false ∧
      (lexer.Fits (.closing .array) → c ≠ ']') := by
  have noLexeme {c : Char} {rest : List Char} (unread : ∀ (form : Form) tail, ¬ form.Spells c rest tail) :
      Reading.startsComment c rest = false ∧ (lexer.Fits (.closing .array) → c ≠ ']') := by
    refine ⟨?_, fun _ bracket => unread (.closing .array) [] ⟨bracket, rfl⟩⟩
    exact Bool.eq_false_iff.mpr fun starts => unread .comment _ ⟨starts, rfl⟩
  cases step with
  | unclosed => cases more
  | @unbalanced c rest delimiter meets closing unfit =>
    refine ⟨c, rest, meets, ?_, ?_⟩
    · rw [closing]
      cases delimiter <;> rfl
    · intro fits bracket
      have same : delimiter = .array := by
        rw [bracket] at closing
        cases delimiter <;> cases closing
        rfl
      rw [same] at unfit
      exact unfit fits
  | @unterminated rest tail meets text =>
    refine ⟨'"', rest, meets, noLexeme fun form other spells => ?_⟩
    have reading := Reading.ofText_eq_lexeme_iff.mpr spells
    simp [Reading.ofText, Reading.startsComment, text] at reading
  | @unexpected c rest meets reading =>
    refine ⟨c, rest, meets, noLexeme fun form other spells => ?_⟩
    rw [Reading.ofText_eq_lexeme_iff.mpr spells] at reading
    cases reading

end Lexer

/-- Where the row breaks of a text stand. What cannot be read stands for a token behind the last one, one
that ends no list. -/
structure RowBreakLaw (source : String) : Prop where
  between : ∀ earlier last between next later,
    (tokenize source).tokens = earlier ++ last :: (between ++ next :: later) →
    last.isSignificant = true → next.isSignificant = true →
    (∀ token ∈ between, token.isSignificant = false) →
    BreaksRows source last earlier.reverse between (next.kind = .arrayClose) next.span.start
  failing : ∀ earlier last between error,
    (tokenize source).tokens = earlier ++ last :: between → (tokenize source).error = some error →
    error.isEndOfInput = false → last.isSignificant = true →
    (∀ token ∈ between, token.isSignificant = false) →
    BreaksRows source last earlier.reverse between False error.span.start
  elsewhere : ∀ earlier feed later, (tokenize source).tokens = earlier ++ feed :: later →
    feed.kind = .newline →
    (∃ last ∈ earlier, last.isSignificant = true) ∧
      ((∃ next rest, later = next :: rest ∧ next.isSignificant = true) ∨
        later = [] ∧ ∃ error, (tokenize source).error = some error ∧ error.isEndOfInput = false)

theorem significant_of_unmatched {past opening : List Token}
    (opened : (unmatched past).head? = some opening) (rows : OpensRows opening) :
    ∃ token ∈ past, token.isSignificant = true := by
  cases opening with
  | nil => exact rows.elim
  | cons token before =>
    have inside := suffix_of_mem_unmatched (List.mem_of_head? opened)
    exact ⟨token, inside.mem (List.mem_cons_self ..), by simp [Token.isSignificant, rows.1]⟩

/-- Behind a row break comes a significant token, or what cannot be read. -/
theorem Reached.drain_of_break {source : String} {past : List Token} {feed : Token} {lexer : Lexer}
    (reached : Reached source (feed :: past) lexer) (running : lexer.finished = false)
    (kind : feed.kind = .newline) :
    (∃ next rest, lexer.drain.tokens = next :: rest ∧ next.isSignificant = true) ∨
      lexer.drain.tokens = [] ∧ ∃ error, lexer.drain.error = some error ∧ error.isEndOfInput = false := by
  obtain ⟨_, _, _, meets, _, _, _, noComment⟩ := reached.behind_break running kind
  match call : lexer.next with
  | (.ok next, after) =>
    have significant := (Lexer.step_of_next call).significant meets noComment
    refine Or.inl ?_
    rw [Lexer.drain_of_token call]
    split
    · exact ⟨next, [], rfl, significant⟩
    · exact ⟨next, after.drain.tokens, rfl, significant⟩
  | (.error error, after) =>
    refine Or.inr ?_
    rw [Lexer.drain_of_error call]
    refine ⟨rfl, error, rfl, ?_⟩
    cases Lexer.step_of_next call with
    | unclosed _ nothing => exact absurd meets.here (by simp [nothing])
    | unbalanced | unterminated | unexpected => rfl

/-- Row breaks stand where they are due and nowhere else. -/
theorem tokenize_rowBreaks (source : String) : RowBreakLaw source where
  between := by
    intro earlier last between next later tokens significant follows insignificant
    have cut : (tokenize source).tokens = (earlier ++ last :: between) ++ next :: later := by
      simpa using tokens
    obtain ⟨lexer, after, reached, running, call⟩ := reached_of_token cut
    obtain ⟨c, rest, meets, noComment, closes, start⟩ := (Lexer.step_of_next call).meets follows
    have place := (reached.standing running).settled.place
    rw [List.reverse_append, List.reverse_cons, List.append_assoc] at reached
    have breaks := breaksRows_of_meets reached meets (by simpa using insignificant) significant noComment
      fun _ => closes
    rw [start, place, Position.behind_offset]
    simpa using breaks
  failing := by
    intro earlier last between error tokens failed more significant insignificant
    obtain ⟨lexer, after, reached, call⟩ := reached_of_error failed
    have step := Lexer.step_of_next call
    obtain ⟨c, rest, meets, noComment, goesOn⟩ := step.meets_of_error more
    have place := (reached.standing meets.running).settled.place
    rw [tokens, List.reverse_append, List.reverse_cons, List.append_assoc] at reached
    have never : lexer.Fits (.closing .array) → (False ↔ c = ']') :=
      fun fits => iff_of_false id (goesOn fits)
    have breaks := breaksRows_of_meets reached meets (by simpa using insignificant) significant
      noComment never
    rw [step.error_start, place, Position.behind_offset]
    simpa using breaks
  elsewhere := by
    intro earlier feed later tokens kind
    obtain ⟨lexer, after, reached, _, call⟩ := reached_of_token tokens
    have step := Lexer.step_of_next call
    constructor
    · obtain ⟨c, rest, _, _, _, ends, _⟩ := step.rowBreak_inv kind
      obtain ⟨⟨frame, innermost, role⟩, _⟩ := Lexer.rowEnds_iff.mp ends
      obtain ⟨opening, opened, rows, _⟩ := reached.begun_of_rows innermost role
      simpa using significant_of_unmatched opened rows
    · have running : after.finished = false := by
        rw [step.finished]
        simp [Token.isEof, kind]
      have behind := reached.token call
      have stream := behind.tokenize running
      have tail : later = after.drain.tokens := by
        have same := congrArg TokenStream.tokens stream
        rw [tokens] at same
        simpa using same
      have reason : (tokenize source).error = after.drain.error := by rw [stream]
      rw [tail, reason]
      exact behind.drain_of_break running kind

end DataLexer
