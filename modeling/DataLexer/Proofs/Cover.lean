import DataLexer.Proofs.Run

namespace DataLexer

/-- A text made of white space and of the lexemes of tokens, latest first. A byte order mark may stand at
its very start. -/
inductive Layout : List Char → List Token → Prop
  | start : Layout [] []
  | mark : Layout ['\uFEFF'] []
  | blank {text past c} : Layout text past → isBlank c = true → Layout (text ++ [c]) past
  | token {text past} (lexeme kind) : Layout text past → lexeme ≠ [] →
      (text = [] → lexeme.head? ≠ some '\uFEFF') → kind ≠ .eof →
      Layout (text ++ lexeme)
        (⟨kind, String.ofList lexeme,
          (Position.behind text).upTo (Position.behind (text ++ lexeme))⟩ :: past)

def withoutMark : List Char → List Char
  | '\uFEFF' :: text => text
  | text => text

theorem withoutMark_of_head {text : List Char} (unmarked : text.head? ≠ some '\uFEFF') :
    withoutMark text = text := by
  unfold withoutMark
  split
  · exact absurd rfl unmarked
  · rfl

theorem withoutMark_append {before after : List Char}
    (unmarked : before = [] → after.head? ≠ some '\uFEFF') :
    withoutMark (before ++ after) = withoutMark before ++ after := by
  cases before with
  | nil => exact withoutMark_of_head (unmarked rfl)
  | cons c before =>
    by_cases mark : c = '\uFEFF'
    · subst c
      rfl
    · rw [withoutMark_of_head (by simpa using mark), withoutMark_of_head (by simpa using mark)]

theorem withoutMark_suffix (text : List Char) : withoutMark text <:+ text := by
  unfold withoutMark
  split
  · exact List.suffix_cons ..
  · exact List.suffix_rfl

namespace Layout

variable {text : List Char} {past : List Token}

theorem append_blank (layout : Layout text past) {gap : List Char} (blank : ∀ c ∈ gap, isBlank c = true) :
    Layout (text ++ gap) past := by
  induction gap generalizing text with
  | nil => simpa using layout
  | cons c gap ih =>
    have longer := ih (layout.blank (blank c (List.mem_cons_self ..)))
      fun d member => blank d (List.mem_cons_of_mem c member)
    simpa using longer

theorem past_of_nil (layout : Layout text past) (empty : text = []) : past = [] := by
  cases layout with
  | start => rfl
  | mark => cases empty
  | blank => simp at empty
  | token _ _ _ nonempty => simp [nonempty] at empty

/-- A token stands in the text where its span says. -/
theorem mem (layout : Layout text past) {token : Token} (member : token ∈ past) :
    ∃ before after, text = before ++ token.text.toList ++ after ∧ token.text.toList ≠ [] ∧
      token.kind ≠ .eof ∧
      token.span = (Position.behind before).upTo (Position.behind (before ++ token.text.toList)) := by
  induction layout with
  | start | mark => simp at member
  | @blank text past c _ _ ih =>
    obtain ⟨before, after, same, rest⟩ := ih member
    exact ⟨before, after ++ [c], by rw [same]; simp, rest⟩
  | @token text past lexeme kind _ nonempty _ notEnd ih =>
    rcases List.mem_cons.mp member with rfl | earlier
    · exact ⟨text, [], by simp, by simpa using nonempty, notEnd, by simp⟩
    · obtain ⟨before, after, same, rest⟩ := ih earlier
      exact ⟨before, after ++ lexeme, by rw [same]; simp, rest⟩

theorem filter_isEof (layout : Layout text past) :
    past.reverse.filter (!·.isEof) = past.reverse := by
  refine List.filter_eq_self.mpr fun token member => ?_
  obtain ⟨_, _, _, _, notEnd, _⟩ := layout.mem (List.mem_reverse.mp member)
  simp [Token.isEof, notEnd]

theorem stop_le (layout : Layout text past) {token : Token} (member : token ∈ past) :
    token.span.stop ≤ byteLength text := by
  obtain ⟨before, after, same, _, _, span⟩ := layout.mem member
  simp only [same, span, Position.upTo, Position.behind_offset, byteLength_append]
  omega

theorem ordered (layout : Layout text past) :
    past.Pairwise fun later earlier => earlier.span.stop ≤ later.span.start := by
  induction layout with
  | start | mark => exact .nil
  | blank _ _ ih => exact ih
  | token _ _ previous _ _ _ ih =>
    refine List.pairwise_cons.mpr ⟨fun earlier member => ?_, ih⟩
    simpa [Position.upTo] using previous.stop_le member

/-- What no token holds is blank, or the byte order mark. -/
theorem uncovered (layout : Layout text past) {before after : List Char} {c : Char}
    (split : text = before ++ c :: after)
    (outside : ∀ token ∈ past, ¬ (token.span.start ≤ byteLength before ∧
      byteLength before < token.span.stop)) :
    isBlank c = true ∨ c = '\uFEFF' ∧ before = [] := by
  induction layout generalizing after with
  | start => simp at split
  | mark =>
    cases before with
    | nil =>
      obtain ⟨rfl, _⟩ := List.cons.inj split
      exact Or.inr ⟨rfl, rfl⟩
    | cons d before => simp at split
  | blank previous space ih =>
    rcases List.append_eq_append_iff.mp split with ⟨more, _, rest⟩ | ⟨more, same, rest⟩
    · cases more with
      | nil =>
        obtain ⟨rfl, _⟩ := List.cons.inj rest
        exact Or.inl space
      | cons d more => simp at rest
    · cases more with
      | nil =>
        obtain ⟨rfl, _⟩ := List.cons.inj rest
        exact Or.inl space
      | cons d more =>
        obtain ⟨rfl, _⟩ := List.cons.inj rest
        exact ih same outside
  | @token text past lexeme kind previous nonempty _ _ ih =>
    have first := outside _ (List.mem_cons_self ..)
    have others := fun token member => outside token (List.mem_cons_of_mem _ member)
    have within {more : List Char} (same : before = text ++ more) (rest : lexeme = more ++ c :: after) :
        False := by
      apply first
      have wide := c.utf8Size_pos
      simp only [Position.upTo, Position.behind_offset, same, rest, byteLength_append, byteLength]
      omega
    rcases List.append_eq_append_iff.mp split with ⟨more, same, rest⟩ | ⟨more, same, rest⟩
    · exact (within same rest).elim
    · cases more with
      | nil =>
        have here : before = text ++ [] := by simpa using same.symm
        have first : lexeme = [] ++ c :: after := by simpa using rest.symm
        exact (within here first).elim
      | cons d more =>
        obtain ⟨rfl, _⟩ := List.cons.inj rest
        exact ih same others

theorem lexemes (layout : Layout text past) :
    (past.reverse.flatMap (·.text.toList)).filter (!isBlank ·) =
      (withoutMark text).filter (!isBlank ·) := by
  induction layout with
  | start | mark => rfl
  | @blank text past c _ space ih =>
    have plain : c ≠ '\uFEFF' := fun same => absurd space (by rw [same]; decide)
    rw [withoutMark_append fun _ => by simpa using plain, List.filter_append, ih]
    simp [space]
  | @token text past lexeme kind _ nonempty unmarked _ ih =>
    rw [withoutMark_append unmarked, List.filter_append, ← ih]
    simp

end Layout

/-- A lexer that has given the tokens `past` of a text and goes on. -/
structure Standing (source : String) (past : List Token) (lexer : Lexer) : Prop where
  whole : lexer.cursor.read ++ lexer.cursor.ahead = source.toList
  place : lexer.cursor.place = Position.behind lexer.cursor.read
  layout : Layout lexer.cursor.read past

namespace Standing

variable {source : String} {past : List Token} {lexer after : Lexer} {token : Token}

theorem started (standing : Standing source past lexer) : lexer.settled.cursor.Started :=
  (Cursor.started_skipByteOrderMark standing.place).advanceBy _

/-- Behind the first token there is no byte order mark to step over. -/
theorem skipByteOrderMark_eq (standing : Standing source past lexer) (more : past ≠ []) :
    lexer.cursor.skipByteOrderMark = lexer.cursor := by
  rcases lexer.cursor.skipByteOrderMark_cases with ⟨same, _⟩ | ⟨zero, _⟩
  · exact same
  · rw [standing.place, Position.behind_offset, byteLength_eq_zero] at zero
    exact absurd (standing.layout.past_of_nil zero) more

/-- The byte order mark is stepped over before anything else is read. -/
theorem layout_skipByteOrderMark (standing : Standing source past lexer) :
    Layout lexer.cursor.skipByteOrderMark.read past := by
  rcases lexer.cursor.skipByteOrderMark_cases with ⟨same, _⟩ | ⟨zero, _, read, _⟩
  · rw [same]
    exact standing.layout
  · rw [standing.place, Position.behind_offset, byteLength_eq_zero] at zero
    have none := standing.layout.past_of_nil zero
    rw [read, zero, none]
    exact .mark

theorem settled (standing : Standing source past lexer) : Standing source past lexer.settled where
  whole := lexer.read_append_ahead_settled.trans standing.whole
  place := standing.started.place
  layout := by
    rw [lexer.read_settled]
    exact standing.layout_skipByteOrderMark.append_blank fun c => Lexer.isBlank_of_mem_gap

theorem next (standing : Standing source past lexer) (step : lexer.Step (.ok token) after)
    (more : token.isEof = false) : Standing source (token :: past) after := by
  cases step with
  | done | last => cases more
  | @rowBreak c rest before behind span running here ends gap fresh place =>
    have marked := Cursor.started_skipByteOrderMark standing.place
    have ahead := lexer.gap_append_settled.symm
    have blank : ∀ c ∈ before ++ '\n' :: behind, isBlank c = true := by
      rw [← gap]
      exact fun c => Lexer.isBlank_of_mem_gap
    have upTo := standing.layout_skipByteOrderMark.append_blank
      fun c member => blank c (List.mem_append_left _ member)
    have feed := upTo.token ['\n'] .newline (by simp) (by simp) (by simp)
    have rest := feed.append_blank fun c member =>
      blank c (List.mem_append_right _ (List.mem_cons_of_mem _ member))
    refine ⟨standing.settled.whole, standing.settled.place, ?_⟩
    have read : lexer.settled.endRow.cursor.read =
        lexer.cursor.skipByteOrderMark.read ++ before ++ ['\n'] ++ behind := by
      have settled : lexer.settled.endRow.cursor.read = _ := lexer.read_settled
      rw [settled, gap]
      simp
    have toFeed : lexer.cursor.skipByteOrderMark.ahead =
        before ++ ('\n' :: behind ++ lexer.settled.cursor.ahead) := by
      rw [ahead, gap]
      simp
    have toRow : lexer.cursor.skipByteOrderMark.ahead =
        (before ++ ['\n']) ++ (behind ++ lexer.settled.cursor.ahead) := by
      rw [ahead, gap]
      simp
    rw [read, place, marked.after toFeed, marked.after toRow, ← List.append_assoc]
    exact rest
  | @lexeme c rest tail form token after meets spells fits passes =>
    have settled := standing.settled
    have moved := standing.started.advanceBy (tail.length + 1)
    rw [← passes.cursor] at moved
    have unmarked : lexer.settled.cursor.read = [] → (c :: tail).head? ≠ some '\uFEFF' := by
      intro fresh
      have first := standing.started.past fresh
      rwa [passes.ahead] at first
    have longer := settled.layout.token (c :: tail) token.kind (by simp) unmarked
      passes.kind_ne.1
    constructor
    · rw [passes.read, List.append_assoc, ← passes.ahead]
      exact settled.whole
    · exact moved.place
    · rw [← passes.read, ← moved.place, ← settled.place, ← passes.span, ← passes.text] at longer
      exact longer

end Standing

theorem Reached.standing {source : String} {past : List Token} {lexer : Lexer}
    (reached : Reached source past lexer) (running : lexer.finished = false) :
    Standing source past lexer := by
  induction reached with
  | start => exact ⟨rfl, rfl, .start⟩
  | token _ call ih =>
    have step := Lexer.step_of_next call
    have more := step.finished.symm.trans running
    exact (ih (step.running_of_token more)).next step more
  | failed _ call => exact absurd (Lexer.step_of_next call).finished_of_error (by simp [running])

theorem Reached.stop {source : String} {past : List Token} {lexer : Lexer} {token : Token}
    (reached : Reached source (token :: past) lexer) (running : lexer.finished = false)
    (unbroken : token.kind ≠ .newline) :
    token.span.stop = byteLength lexer.cursor.read := by
  obtain ⟨_, _, _, step, more⟩ := reached.before running
  rw [step.stop more unbroken, (reached.standing running).place, Position.behind_offset]

theorem Reached.read_settled {source : String} {past : List Token} {lexer : Lexer}
    (reached : Reached source past lexer) (running : lexer.finished = false)
    (more : past ≠ []) : lexer.settled.cursor.read = lexer.cursor.read ++ lexer.gap := by
  rw [lexer.read_settled, (reached.standing running).skipByteOrderMark_eq more]

theorem Reached.started {source : String} {past : List Token} {lexer : Lexer}
    (reached : Reached source past lexer) (running : lexer.finished = false)
    (more : past ≠ []) : lexer.cursor.Started := by
  have standing := reached.standing running
  rw [← standing.skipByteOrderMark_eq more]
  exact Cursor.started_skipByteOrderMark standing.place

theorem Reached.slice_gap {source : String} {past : List Token} {lexer : Lexer} {token : Token}
    (reached : Reached source (token :: past) lexer) (running : lexer.finished = false)
    (unbroken : token.kind ≠ .newline) :
    slice? source.toList token.span.stop (byteLength lexer.settled.cursor.read) = some lexer.gap := by
  have slice := slice?_append lexer.cursor.read lexer.gap lexer.settled.cursor.ahead
  rwa [← reached.read_settled running (by simp), (reached.standing running).settled.whole,
    ← reached.stop running unbroken] at slice

/-- What is ahead is met at once, or behind the end of a row. -/
theorem Reached.meets {source : String} {past : List Token} {lexer : Lexer}
    (reached : Reached source past lexer) (running : lexer.finished = false) {c : Char} {rest : List Char}
    (here : lexer.settled.cursor.ahead = c :: rest) :
    ∃ breaks later, Reached source (breaks ++ past) later ∧ later.Meets c rest ∧
      ∀ token ∈ breaks, token.kind = .newline := by
  by_cases breaks : lexer.BreaksBefore c rest
  · obtain ⟨span, call⟩ := breaks.next running here
    have started : lexer.settled.endRow.cursor.Started := (reached.standing running).started
    have meets := Lexer.meets_of_started started running here (Lexer.isBlank_head_settled here)
    exact ⟨[_], _, reached.token call, meets, by simp⟩
  · exact ⟨[], lexer, reached, ⟨running, here, breaks⟩, by simp⟩

/-- Behind a row break the next row is met at once, and it does not start with a comment. -/
theorem Reached.behind_break {source : String} {past : List Token} {lexer : Lexer} {feed : Token}
    (reached : Reached source (feed :: past) lexer) (running : lexer.finished = false)
    (kind : feed.kind = .newline) :
    ∃ c rest frame, lexer.Meets c rest ∧ lexer.frames.head? = some frame ∧ frame.role = .rows false ∧
      c ≠ ']' ∧ Reading.startsComment c rest = false := by
  obtain ⟨before, earlier, ran, step, _⟩ := reached.before running
  obtain ⟨c, rest, _, _, here, ends, _, _, _, _, rfl⟩ := step.rowBreak_inv kind
  obtain ⟨⟨frame, innermost, role⟩, goesOn, noComment⟩ := Lexer.rowEnds_iff.mp ends
  have started : before.settled.endRow.cursor.Started := (earlier.standing ran).started
  have meets := Lexer.meets_of_started started running here (Lexer.isBlank_head_settled here)
  have fresh : before.settled.endRow.frames.head? = some frame.endRow := by
    cases frames : before.frames with
    | nil => simp [frames] at innermost
    | cons first outer =>
      rw [frames] at innermost
      cases innermost
      simp [Lexer.endRow, frames]
  exact ⟨c, rest, frame.endRow, meets, fresh, by simp [Frame.endRow, role], goesOn, noComment⟩

/-- Tokens that stand at their own texts, in order and without overlap, up to the byte `stop` of a text,
with nothing but white space and a byte order mark at the start outside of them. -/
structure Covers (tokens : List Token) (source : List Char) (stop : Nat) : Prop where
  slices : ∀ token ∈ tokens, token.span.start ≤ token.span.stop ∧ token.span.stop ≤ stop ∧
    slice? source token.span.start token.span.stop = some token.text.toList
  nonempty : ∀ token ∈ tokens, token.kind ≠ .eof → token.text ≠ ""
  ordered : tokens.Pairwise fun earlier later => earlier.span.stop ≤ later.span.start
  outside : ∀ before c after, source = before ++ c :: after → byteLength before < stop →
    (∀ token ∈ tokens, ¬ (token.span.start ≤ byteLength before ∧ byteLength before < token.span.stop)) →
    isBlank c = true ∨ c = '\uFEFF' ∧ before = []

theorem Layout.covers {read : List Char} {past : List Token} (layout : Layout read past)
    (rest : List Char) : Covers past.reverse (read ++ rest) (byteLength read) where
  slices := by
    intro token member
    obtain ⟨before, after, same, _, _, span⟩ := layout.mem (List.mem_reverse.mp member)
    have cut := slice?_append before token.text.toList (after ++ rest)
    refine ⟨?_, layout.stop_le (List.mem_reverse.mp member), ?_⟩
    · simp [span, Position.upTo]
    · rw [span, same]
      simpa [Position.upTo] using cut
  nonempty := by
    intro token member _ empty
    obtain ⟨_, _, _, nonempty, _⟩ := layout.mem (List.mem_reverse.mp member)
    simp [empty] at nonempty
  ordered := List.pairwise_reverse.mpr layout.ordered
  outside := by
    intro before c after split within others
    rcases List.append_eq_append_iff.mp split with ⟨more, same, _⟩ | ⟨more, same, tail⟩
    · rw [same, byteLength_append] at within
      omega
    · cases more with
      | nil => simp [same] at within
      | cons d more =>
        obtain ⟨rfl, _⟩ := List.cons.inj tail
        exact layout.uncovered same fun token member => others token (List.mem_reverse.mpr member)

theorem Covers.atEnd {tokens : List Token} {source : List Char} {place : Position}
    (covers : Covers tokens source (byteLength source)) (last : place.offset = byteLength source) :
    Covers (tokens ++ [.atEnd place]) source (byteLength source) where
  slices := by
    intro token member
    rcases List.mem_append.mp member with inside | final
    · exact covers.slices token inside
    · have cut := slice?_append source [] []
      obtain rfl := List.mem_singleton.mp final
      simpa [Token.atEnd, Position.point, Position.upTo, last] using cut
  nonempty := by
    intro token member notEnd
    rcases List.mem_append.mp member with inside | final
    · exact covers.nonempty token inside notEnd
    · obtain rfl := List.mem_singleton.mp final
      exact absurd rfl notEnd
  ordered := by
    refine List.pairwise_append.mpr ⟨covers.ordered, List.pairwise_singleton .., ?_⟩
    intro earlier member later final
    obtain rfl := List.mem_singleton.mp final
    simpa [Token.atEnd, Position.point, Position.upTo, last] using (covers.slices earlier member).2.1
  outside := by
    intro before c after split within others
    exact covers.outside before c after split within fun token member =>
      others token (List.mem_append_left _ member)

/-- The tokens of a text cover all of it, or all before its error, and the text can be told from them but
for white space and a leading byte order mark. A text without an error ends in the one token for its
end. -/
theorem tokenize_covers (source : String) :
    ∃ read rest, source.toList = read ++ rest ∧
      Covers (tokenize source).tokens source.toList (byteLength read) ∧
      ((tokenize source).tokens.flatMap (·.text.toList)).filter (!isBlank ·) =
        (withoutMark read).filter (!isBlank ·) ∧
      (∀ error, (tokenize source).error = some error → error.span.start = byteLength read) ∧
      ((tokenize source).error = none → rest = [] ∧ ∃ init last,
        (tokenize source).tokens = init ++ [last] ∧ (∀ token ∈ init, token.kind ≠ .eof) ∧
        last.kind = .eof ∧ last.text = "" ∧ last.span.start = byteLength source.toList ∧
        last.span.stop = byteLength source.toList) := by
  cases outcome : (tokenize source).error with
  | some error =>
    obtain ⟨lexer, after, reached, call⟩ := reached_of_error outcome
    have step := Lexer.step_of_next call
    have settled := (reached.standing step.running_of_error).settled
    refine ⟨lexer.settled.cursor.read, lexer.settled.cursor.ahead, settled.whole.symm, ?_, ?_, ?_, ?_⟩
    · rw [← settled.whole]
      simpa using settled.layout.covers lexer.settled.cursor.ahead
    · simpa using settled.layout.lexemes
    · intro same equal
      cases equal
      rw [step.error_start, settled.place, Position.behind_offset]
    · intro absurd
      cases absurd
  | none =>
    obtain ⟨past, lexer, after, reached, running, nothing, _, _, tokens⟩ := reached_of_complete outcome
    have settled := (reached.standing running).settled
    have whole := settled.whole
    rw [nothing, List.append_nil] at whole
    have last : lexer.settled.cursor.place.offset = byteLength source.toList := by
      rw [settled.place, Position.behind_offset, whole]
    have covers := settled.layout.covers []
    rw [List.append_nil, whole] at covers
    refine ⟨source.toList, [], by simp, ?_, ?_, ?_, ?_⟩
    · rw [tokens]
      exact covers.atEnd last
    · have lexemes := settled.layout.lexemes
      rw [whole] at lexemes
      rw [tokens, List.flatMap_append, List.filter_append, lexemes]
      simp [Token.atEnd]
    · intro error impossible
      cases impossible
    · intro _
      refine ⟨rfl, past.reverse, _, tokens, ?_, rfl, rfl, last, last⟩
      intro token member
      obtain ⟨_, _, _, _, notEnd, _⟩ := settled.layout.mem (List.mem_reverse.mp member)
      exact notEnd

end DataLexer
