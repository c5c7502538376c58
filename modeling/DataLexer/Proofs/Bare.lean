import DataLexer.Proofs.Abreast
import DataLexer.Proofs.RowBreaks
import DataLexer.Proofs.Start

namespace DataLexer

/-- What no span covers of a text that starts at the byte `offset`. -/
def outside (spans : List Span) : Nat → List Char → List Char
  | _, [] => []
  | offset, c :: rest =>
    let kept := outside spans (offset + c.utf8Size) rest
    if spans.any fun span => span.start ≤ offset ∧ offset < span.stop then kept else c :: kept

def commentSpans (tokens : List Token) : List Span :=
  (tokens.filter (·.kind = .comment)).map (·.span)

/-- A text without its comments. The ends of their lines stay. -/
def uncommented (source : String) : String :=
  String.ofList (outside (commentSpans (tokenize source).tokens) 0 source.toList)

section Outside

variable {spans : List Span} {span : Span} {offset : Nat}

theorem outside_append (before after : List Char) : outside spans offset (before ++ after) =
    outside spans offset before ++ outside spans (offset + byteLength before) after := by
  induction before generalizing offset with
  | nil => rfl
  | cons c before ih =>
    rw [List.cons_append, outside, outside, ih, byteLength, Nat.add_assoc]
    split <;> rfl

theorem outside_of_apart {text : List Char}
    (apart : ∀ span ∈ spans, offset + byteLength text ≤ span.start) : outside spans offset text = text := by
  induction text generalizing offset with
  | nil => rfl
  | cons c text ih =>
    have wide := c.utf8Size_pos
    have none : (spans.any fun span => span.start ≤ offset ∧ offset < span.stop) = false := by
      rw [List.any_eq_false]
      intro span member
      have bound := apart span member
      simp only [byteLength] at bound
      simp only [decide_eq_true_eq]
      omega
    have rest : outside spans (offset + c.utf8Size) text = text := by
      refine ih fun span member => ?_
      have bound := apart span member
      simp only [byteLength] at bound
      omega
    rw [outside, none, rest]
    rfl

theorem outside_of_within {text : List Char} (member : span ∈ spans) (start : span.start ≤ offset)
    (stop : offset + byteLength text ≤ span.stop) : outside spans offset text = [] := by
  induction text generalizing offset with
  | nil => rfl
  | cons c text ih =>
    have wide := c.utf8Size_pos
    simp only [byteLength] at stop
    have covers : (spans.any fun span => span.start ≤ offset ∧ offset < span.stop) = true := by
      rw [List.any_eq_true]
      refine ⟨span, member, ?_⟩
      simp only [decide_eq_true_eq]
      omega
    rw [outside, covers, if_pos rfl]
    exact ih (by omega) (by omega)

theorem outside_cons_past {text : List Char} (past : span.stop ≤ offset) :
    outside (span :: spans) offset text = outside spans offset text := by
  induction text generalizing offset with
  | nil => rfl
  | cons c text ih =>
    have passed : ¬ offset < span.stop := by omega
    rw [outside, outside, ih (by omega)]
    simp [passed]

end Outside

theorem commentSpans_of_comment {token : Token} (comment : token.kind = .comment) (tokens : List Token) :
    commentSpans (token :: tokens) = token.span :: commentSpans tokens := by
  simp [commentSpans, comment]

theorem commentSpans_of_other {token : Token} (other : token.kind ≠ .comment) (tokens : List Token) :
    commentSpans (token :: tokens) = commentSpans tokens := by
  simp [commentSpans, other]

namespace Lexer

/-- The text ahead of a lexer without the comments that it finds there. -/
inductive Bare : Lexer → List Char → Prop
  | last {lexer} : (∀ token after, lexer.next = (.ok token, after) → token.isEof = true) →
      Bare lexer lexer.cursor.ahead
  | comment {lexer token after text} : lexer.next = (.ok token, after) → token.kind = .comment →
      Bare after text → Bare lexer (lexer.gap ++ text)
  | rowBreak {lexer token after text} : lexer.next = (.ok token, after) → token.kind = .newline →
      Bare after text → Bare lexer (lexer.gap ++ text)
  | lexeme {lexer form c tail token after text} : lexer.next = (.ok token, after) →
      token.kind ≠ .comment → form.Spells c (tail ++ after.cursor.ahead) tail →
      lexer.Passes form c tail token after → Bare after text → Bare lexer (lexer.gap ++ (c :: tail ++ text))

variable {lexer after : Lexer} {token : Token} {form : Form} {c : Char} {rest tail text : List Char}

theorem offset_settled (started : lexer.cursor.Started) :
    lexer.settled.cursor.place.offset = lexer.cursor.place.offset + byteLength lexer.gap := by
  rw [(started_settled started).place, started.place, Position.behind_offset, Position.behind_offset,
    read_settled_of_started started, byteLength_append]

theorem Passes.offset (passes : lexer.Passes form c tail token after) : after.cursor.place.offset =
    lexer.settled.cursor.place.offset + byteLength (c :: tail) := by
  have taken : lexer.settled.cursor.ahead.take (tail.length + 1) = c :: tail := by
    rw [passes.ahead]
    simp
  rw [passes.cursor, Cursor.place_advanceBy, Position.after_offset, taken]

theorem commentSpans_of_stop
    (ended : ∀ token after, lexer.next = (.ok token, after) → token.isEof = true) :
    commentSpans lexer.drain.tokens = [] := by
  match call : lexer.next with
  | (.error error, after) =>
    rw [drain_of_error call]
    rfl
  | (.ok token, after) =>
    have last := ended token after call
    have kind : token.kind = .eof := by simpa [Token.isEof] using last
    rw [drain_of_token call, last]
    exact commentSpans_of_other (by simp [kind]) []

/-- The comments that a lexer has still to give stand ahead of it. -/
theorem le_of_mem_commentSpans (started : lexer.cursor.Started) {span : Span}
    (member : span ∈ commentSpans lexer.drain.tokens) : lexer.cursor.place.offset ≤ span.start := by
  induction lexer using drain_induction with
  | stop lexer ended =>
    rw [commentSpans_of_stop ended] at member
    cases member
  | more lexer token after call goesOn ih =>
    have gap := offset_settled started
    have step := step_of_next call
    have later := ih (step.started started)
    rw [drain_of_more call goesOn, TokenStream.prepend] at member
    cases step with
    | done | last => cases goesOn
    | rowBreak =>
      rw [commentSpans_of_other (by simp)] at member
      have bound : lexer.settled.cursor.place.offset ≤ span.start := later member
      omega
    | lexeme _ _ _ passes =>
      have offset := passes.offset
      by_cases comment : token.kind = .comment
      · rw [commentSpans_of_comment comment] at member
        rcases List.mem_cons.mp member with rfl | inside
        · have start : token.span.start = lexer.settled.cursor.place.offset := by rw [passes.span]; rfl
          omega
        · have bound := later inside
          omega
      · rw [commentSpans_of_other comment] at member
        have bound := later member
        omega

/-- What the spans of the comments leave of the text ahead is the text without its comments. -/
theorem bare_outside (started : lexer.cursor.Started) : lexer.Bare
    (outside (commentSpans lexer.drain.tokens) lexer.cursor.place.offset lexer.cursor.ahead) := by
  induction lexer using drain_induction with
  | stop lexer ended =>
    rw [commentSpans_of_stop ended, outside_of_apart (by simp)]
    exact .last ended
  | more lexer token after call goesOn ih =>
    have gap := offset_settled started
    have step := step_of_next call
    have startedAfter := step.started started
    have later (span : Span) (member : span ∈ commentSpans after.drain.tokens) :=
      le_of_mem_commentSpans startedAfter member
    have bare := ih startedAfter
    rw [drain_of_more call goesOn, TokenStream.prepend, ← gap_append_of_started started, outside_append,
      ← gap]
    cases step with
    | done | last => cases goesOn
    | rowBreak =>
      rw [commentSpans_of_other (by simp), outside_of_apart fun span member => ?_]
      · exact .rowBreak call rfl bare
      · have bound : lexer.settled.cursor.place.offset ≤ span.start := later span member
        omega
    | @lexeme c rest tail form _ _ meets spells _ passes =>
      have offset := passes.offset
      rw [passes.ahead, outside_append, ← offset]
      by_cases comment : token.kind = .comment
      · have start : token.span.start = lexer.settled.cursor.place.offset := by rw [passes.span]; rfl
        have stop : token.span.stop = after.cursor.place.offset := by rw [passes.span]; rfl
        have none : outside (token.span :: commentSpans after.drain.tokens)
            lexer.settled.cursor.place.offset (c :: tail) = [] :=
          outside_of_within (List.mem_cons_self ..) (Nat.le_of_eq start) (by omega)
        rw [commentSpans_of_comment comment, outside_of_apart fun span member => ?_, none,
          outside_cons_past (Nat.le_of_eq stop)]
        · exact .comment call comment bare
        · rcases List.mem_cons.mp member with rfl | inside
          · omega
          · have bound := later span inside
            omega
      · rw [commentSpans_of_other comment, outside_of_apart fun span member => ?_,
          outside_of_apart fun span member => ?_]
        · obtain ⟨_, split⟩ := List.cons.inj (meets.here.symm.trans passes.ahead)
          rw [split] at spells
          exact .lexeme call comment spells passes bare
        · have bound := later span member
          omega
        · have bound := later span member
          omega

theorem lineEnd_gap (started : lexer.cursor.Started) (ended : Reading.LineEnd lexer.cursor.ahead)
    (here : lexer.settled.cursor.ahead = c :: rest) (other : List Char) :
    Reading.LineEnd (lexer.gap ++ other) := by
  have feed : isBlank '\n' = true := by decide
  have returned : isBlank '\r' = true := by decide
  rw [ahead_settled_of_started started] at here
  rw [gap_of_started started]
  generalize lexer.cursor.ahead = ahead at ended here
  cases ended with
  | text => cases here
  | feed =>
    rw [List.takeWhile_cons_of_pos feed]
    exact .feed
  | returned =>
    rw [List.takeWhile_cons_of_pos returned, List.takeWhile_cons_of_pos feed]
    exact .returned

theorem here_of_more (call : lexer.next = (.ok token, after)) (goesOn : token.isEof = false) :
    ∃ c rest, lexer.settled.cursor.ahead = c :: rest := by
  cases step_of_next call with
  | done | last => cases goesOn
  | rowBreak _ here => exact ⟨_, _, here⟩
  | lexeme meets => exact ⟨_, _, meets.here⟩

namespace Bare

theorem lineEnd (bare : lexer.Bare text) (started : lexer.cursor.Started)
    (ended : Reading.LineEnd lexer.cursor.ahead) : Reading.LineEnd text := by
  cases bare with
  | last => exact ended
  | comment call comment =>
    obtain ⟨c, rest, here⟩ := here_of_more call (by simp [Token.isEof, comment])
    exact lineEnd_gap started ended here _
  | rowBreak call newline =>
    obtain ⟨c, rest, here⟩ := here_of_more call (by simp [Token.isEof, newline])
    exact lineEnd_gap started ended here _
  | lexeme _ _ _ passes => exact lineEnd_gap started ended passes.ahead _

/-- Behind the blank text either a line feed has been passed, or both texts go on with the same character
or none, or only a line end is left where a comment stood. -/
theorem view (bare : lexer.Bare text) (started : lexer.cursor.Started) : ∃ rest, text = lexer.gap ++ rest ∧
    ('\n' ∈ lexer.gap ∨ rest.head? = lexer.settled.cursor.ahead.head? ∨
      Reading.LineEnd rest ∧ ∃ c tail, lexer.settled.cursor.ahead = c :: tail ∧ (c = '#' ∨ c = '/')) := by
  cases bare with
  | last => exact ⟨_, (gap_append_of_started started).symm, Or.inr (Or.inl rfl)⟩
  | @comment _ token after text call comment bare =>
    refine ⟨_, rfl, Or.inr (Or.inr ?_)⟩
    have step := step_of_next call
    refine ⟨bare.lineEnd (step.started started) (step.lineEnd comment), ?_⟩
    cases step with
    | done | last | rowBreak => cases comment
    | lexeme meets spells _ passes =>
      have form := passes.form
      rw [comment] at form
      cases form
      refine ⟨_, _, meets.here, ?_⟩
      have starts := spells.1
      simp only [Reading.startsComment, Bool.or_eq_true, Bool.and_eq_true, decide_eq_true_eq] at starts
      exact starts.imp_right And.left
  | rowBreak call newline =>
    obtain ⟨_, _, _, _, _, _, gap, _⟩ := (step_of_next call).rowBreak_inv newline
    exact ⟨_, rfl, Or.inl (by rw [gap]; simp)⟩
  | lexeme _ _ _ passes => exact ⟨_, rfl, Or.inr (Or.inl (by rw [passes.ahead]; rfl))⟩

theorem looser (bare : lexer.Bare text) (started : lexer.cursor.Started) :
    Looser lexer.cursor.ahead text := by
  obtain ⟨rest, rfl, view⟩ := bare.view started
  rw [← gap_append_of_started started]
  intro c found
  cases gap : lexer.gap with
  | cons d gap' =>
    rw [gap] at found
    exact Or.inl found
  | nil =>
    rw [gap, List.nil_append] at found
    rcases view with feed | same | ⟨ended, _⟩
    · rw [gap] at feed
      cases feed
    · exact Or.inl (same ▸ found)
    · refine Or.inr ?_
      cases ended <;> cases found <;> decide

theorem colonNext (bare : lexer.Bare text) (started : lexer.cursor.Started) :
    ColonNext text ↔ ColonNext lexer.cursor.ahead := by
  obtain ⟨rest, rfl, view⟩ := bare.view started
  rw [← gap_append_of_started started]
  have space (c : Char) (inside : c ∈ lexer.gap) : isBlank c = true := isBlank_of_mem_gap inside
  by_cases feed : '\n' ∈ lexer.gap
  · exact iff_of_false (not_colonNext_of_feed space feed _) (not_colonNext_of_feed space feed _)
  · have inline : ∀ c ∈ lexer.gap, isInlineBlank c = true := by
      intro c inside
      simp [isInlineBlank, ne_of_mem_of_not_mem inside feed, space c inside]
    have solid (c : Char) (head : lexer.settled.cursor.ahead.head? = some c) := lexer.solid_settled head
    rw [colonNext_append inline, colonNext_append inline, colonNext_of_solid solid]
    rcases view with inside | same | ⟨ended, c, tail, here, mark⟩
    · exact absurd inside feed
    · rw [← same] at solid ⊢
      exact colonNext_of_solid solid
    · refine iff_of_false ?_ ?_
      · cases ended <;> simp [ColonNext, isInlineBlank, isBlank, inRanges, blankRanges]
      · rw [here]
        rcases mark with rfl | rfl <;> simp

/-- A dot behind a number starts nothing. -/
theorem of_dot (bare : lexer.Bare text) (started : lexer.cursor.Started) (running : lexer.finished = false)
    (dot : lexer.cursor.ahead = '.' :: rest) : text = '.' :: rest := by
  have meets := meets_of_started started running dot (by decide)
  have unread : Reading.ofText '.' rest = .unexpected := by
    have name : isNameStart '.' = false := by decide
    have bracket : Delimiter.ofOpen? '.' = Option.none ∧ Delimiter.ofClose? '.' = Option.none := by decide
    simp [Reading.ofText, Reading.startsComment, Reading.startsNumber, name, bracket]
  obtain ⟨_, _, fails⟩ := meets.next_of_unexpected unread
  cases bare with
  | last => exact dot
  | comment call | rowBreak call | lexeme call => cases fails.symm.trans call

theorem beginAlike (bare : after.Bare text) (started : after.cursor.Started) (running : after.finished = false)
    (spells : form.Spells c (tail ++ after.cursor.ahead) tail) (noComment : form ≠ .comment) :
    BeginAlike (c :: tail ++ after.cursor.ahead) (c :: tail ++ text) := by
  have looser := bare.looser started
  refine .of_stops spells (fun stops => ?_) fun _ => bare.colonNext started
  cases form with
  | comment => exact absurd rfl noComment
  | number =>
    refine Reading.numberTail_of_looser stops looser fun rest rest' dot dot' => ?_
    cases dot'.symm.trans (bare.of_dot started running dot)
    exact .refl _
  | name =>
    intro d found
    rcases looser d found with head | blank
    · exact stops d head
    · exact isNameChar_of_isBlank blank
  | string | colon | comma | opening | closing => trivial

/-- Where no comment comes next, a text begins as it does without its comments. -/
theorem begins (bare : lexer.Bare text) (started : lexer.cursor.Started)
    (noComment : ∀ token after, lexer.next = (.ok token, after) → token.kind ≠ .comment) :
    ∃ rest, text = lexer.gap ++ rest ∧ BeginAlike lexer.settled.cursor.ahead rest := by
  induction bare with
  | last => exact ⟨_, (gap_append_of_started started).symm, .refl _⟩
  | comment call comment => exact absurd comment (noComment _ _ call)
  | @rowBreak lexer token after text call newline bare ih =>
    obtain ⟨c, rest, _, _, here, ends, _, _, _, _, rfl⟩ := (step_of_next call).rowBreak_inv newline
    have startedAfter : lexer.settled.endRow.cursor.Started := started_settled started
    obtain ⟨none, same⟩ := settled_of_started startedAfter here (isBlank_head_settled here)
    have running : lexer.settled.endRow.finished = false := by
      rw [(step_of_next call).finished]
      simp [Token.isEof, newline]
    have meets := meets_of_started startedAfter running here (isBlank_head_settled here)
    obtain ⟨rest', rfl, alike⟩ := ih startedAfter fun token after call comment => by
      have significant := (step_of_next call).significant meets (rowEnds_iff.mp ends).2.2
      simp [Token.isSignificant, comment] at significant
    rw [none, List.nil_append]
    rw [same] at alike
    exact ⟨rest', rfl, alike⟩
  | @lexeme lexer form c tail token after text call other spells passes bare ih =>
    refine ⟨_, rfl, ?_⟩
    rw [passes.ahead]
    refine bare.beginAlike (passes.started started) passes.running spells fun comment => ?_
    subst comment
    exact other passes.kind

end Bare

end Lexer

end DataLexer
