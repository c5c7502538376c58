import DataLexer.Proofs.Cover
import DataLexer.Proofs.History

namespace DataLexer

/-- The bracket that a token opens, at its place. -/
def Token.opener? (token : Token) : Option Opener := token.kind.opens?.map (⟨·, token.span⟩)

/-- The brackets that a history leaves open, innermost first. -/
def pending (past : List Token) : List Opener :=
  (unmatched past).filterMap fun opening => opening.head?.bind Token.opener?

def openings (tokens : List Token) : Nat := tokens.countP (·.kind.opens?.isSome)

def closings (tokens : List Token) : Nat := tokens.countP (·.kind.closes?.isSome)

/-- Tokens whose brackets come in pairs, one inside the other or one behind the other. -/
inductive Balanced : List Token → Prop
  | nil : Balanced []
  | plain {before token} : Balanced before → token.kind.opens? = none → token.kind.closes? = none →
      Balanced (before ++ [token])
  | pair {before inner opener closer delimiter} : Balanced before → Balanced inner →
      opener.kind.opens? = some delimiter → closer.kind.closes? = some delimiter →
      Balanced (before ++ opener :: (inner ++ [closer]))

/-- Every closing token of a history closes the innermost bracket that is open before it. -/
def ClosersFit (past : List Token) : Prop :=
  ∀ closer before delimiter, closer :: before <:+ past → closer.kind.closes? = some delimiter →
    (pending before).head?.map (·.delimiter) = some delimiter

theorem ClosersFit.of_suffix {past before : List Token} (fit : ClosersFit past) (suffix : before <:+ past) :
    ClosersFit before :=
  fun _ _ _ inside => fit _ _ _ (inside.trans suffix)

theorem Frame.Records.opener {frame : Frame} {opening : List Token} (records : frame.Records opening) :
    opening.head?.bind Token.opener? = some frame.opener := by
  cases opening with
  | nil => exact records.elim
  | cons token past =>
    obtain ⟨opens, span, _⟩ := records
    simp [Token.opener?, opens, span]

theorem Context.records_openers {frames : List Frame} {openings : List (List Token)}
    (records : List.Forall₂ Frame.Records frames openings) :
    frames.map (·.opener) = openings.filterMap fun opening => opening.head?.bind Token.opener? := by
  induction records with
  | nil => rfl
  | cons first _ ih => rw [List.map_cons, List.filterMap_cons, first.opener, ih]

namespace Reached

variable {source : String} {past : List Token} {lexer : Lexer}

theorem pending (reached : Reached source past lexer) :
    lexer.frames.map (·.opener) = DataLexer.pending past :=
  Context.records_openers reached.tells.frames

theorem head_pending (reached : Reached source past lexer) :
    lexer.frames.head?.map (·.opener) = (DataLexer.pending past).head? := by
  rw [← reached.pending, List.head?_map]

theorem closersFit (reached : Reached source past lexer) : ClosersFit past := by
  induction reached with
  | start =>
    intro closer before delimiter suffix
    exact absurd suffix.length_le (by simp)
  | @token past before token _ earlier call ih =>
    intro closer older delimiter suffix closes
    rcases List.suffix_cons_iff.mp suffix with same | inside
    · obtain ⟨rfl, rfl⟩ := List.cons.inj same
      have fits := (Lexer.step_of_next call).fits closes
      rw [← earlier.head_pending]
      simpa [Function.comp_def] using fits
    · exact ih closer older delimiter inside closes
  | failed _ _ ih => exact ih

end Reached

theorem pending_length {past : List Token} (fit : ClosersFit past) :
    (unmatched past).length + closings past = openings past := by
  induction past with
  | nil => rfl
  | cons token past ih =>
    have count := ih (fit.of_suffix (List.suffix_cons token past))
    unfold closings openings at count ⊢
    rw [List.countP_cons, List.countP_cons]
    cases opens : token.kind.opens? with
    | some delimiter =>
      have closes : token.kind.closes? = none := by
        rw [TokenKind.eq_openKind opens]
        cases delimiter <;> rfl
      simp [unmatched_of_opens opens, closes]
      omega
    | none =>
      cases closes : token.kind.closes? with
      | none => simpa [unmatched_of_neither opens closes] using count
      | some delimiter =>
        have open' : unmatched past ≠ [] := by
          intro none
          have fits := fit token past delimiter List.suffix_rfl closes
          simp [DataLexer.pending, none] at fits
        have positive := List.length_pos_iff.mpr open'
        simp [unmatched_of_closes closes]
        omega

/-- The brackets outside of an open one are those that were open before it. -/
theorem unmatched_before {past opening : List Token} {inner outer : List (List Token)}
    (opened : unmatched past = inner ++ opening :: outer) :
    ∃ opener before delimiter, opening = opener :: before ∧ opener.kind.opens? = some delimiter ∧
      unmatched before = outer := by
  induction past generalizing inner with
  | nil => simp [unmatched] at opened
  | cons token past ih =>
    cases opens : token.kind.opens? with
    | some delimiter =>
      rw [unmatched_of_opens opens] at opened
      cases inner with
      | nil =>
        obtain ⟨rfl, rfl⟩ := List.cons.inj opened
        exact ⟨token, past, delimiter, rfl, opens, rfl⟩
      | cons first inner => exact ih (List.cons.inj opened).2
    | none =>
      cases closes : token.kind.closes? with
      | none =>
        rw [unmatched_of_neither opens closes] at opened
        exact ih opened
      | some delimiter =>
        rw [unmatched_of_closes closes] at opened
        cases before : unmatched past with
        | nil => simp [before] at opened
        | cons first rest =>
          rw [before, List.tail_cons] at opened
          have longer : unmatched past = (first :: inner) ++ opening :: outer := by
            rw [before, opened]
            rfl
          exact ih longer

/-- What stands behind the innermost open bracket, or behind the start when none is open, is balanced. -/
theorem balanced_since_innermost {past : List Token} (fit : ClosersFit past) :
    ∃ inner, past = inner ++ (unmatched past).head?.getD [] ∧ Balanced inner.reverse := by
  match past with
  | [] => exact ⟨[], rfl, .nil⟩
  | token :: past =>
    have fitPast := fit.of_suffix (List.suffix_cons token past)
    obtain ⟨inner, same, balanced⟩ := balanced_since_innermost fitPast
    cases opens : token.kind.opens? with
    | some delimiter =>
      rw [unmatched_of_opens opens]
      exact ⟨[], rfl, .nil⟩
    | none =>
      cases closes : token.kind.closes? with
      | none =>
        rw [unmatched_of_neither opens closes]
        refine ⟨token :: inner, by rw [List.cons_append, ← same], ?_⟩
        rw [List.reverse_cons]
        exact balanced.plain opens closes
      | some delimiter =>
        rw [unmatched_of_closes closes]
        have fits := fit token past delimiter List.suffix_rfl closes
        cases opened : unmatched past with
        | nil => simp [pending, opened] at fits
        | cons opening outer =>
          have innermost : unmatched past = [] ++ opening :: outer := opened
          obtain ⟨opener, before, other, rfl, opensIt, outside⟩ := unmatched_before innermost
          have sameKind : other = delimiter := by
            simpa [pending, opened, Token.opener?, opensIt] using fits
          subst other
          rw [opened, List.head?_cons, Option.getD_some] at same
          -- the bracket that is closed here takes its inner text with it, and before it stands less
          have shorter : before.length < past.length := by
            rw [same]
            simp
            omega
          have suffix : before <:+ past := ⟨inner ++ [opener], by rw [same]; simp⟩
          obtain ⟨earlier, same', balanced'⟩ := balanced_since_innermost (fitPast.of_suffix suffix)
          rw [outside] at same'
          refine ⟨token :: (inner ++ opener :: earlier), ?_, ?_⟩
          · rw [List.tail_cons, same]
            conv => lhs; rw [same']
            simp
          · have pair := balanced'.pair balanced opensIt closes
            simpa using pair
termination_by past.length

theorem balanced_of_unmatched_nil {past : List Token} (fit : ClosersFit past)
    (none : unmatched past = []) : Balanced past.reverse := by
  obtain ⟨inner, same, balanced⟩ := balanced_since_innermost fit
  rw [none] at same
  rw [same]
  simpa using balanced

theorem pending_append_breaks {breaks past : List Token}
    (newlines : ∀ token ∈ breaks, token.kind = .newline) : pending (breaks ++ past) = pending past := by
  have insignificant : ∀ token ∈ breaks, token.isSignificant = false :=
    fun token member => Token.insignificant_iff.mpr (Or.inr (Or.inl (newlines token member)))
  rw [pending, unmatched_append insignificant, pending]

/-- Behind the tokens `past` the lexer meets a closing bracket that does not close the innermost open
one. -/
def MeetsStray (source : String) (past : List Token) (c : Char) : Prop :=
  ∃ lexer rest delimiter, Reached source past lexer ∧ lexer.finished = false ∧
    lexer.settled.cursor.ahead = c :: rest ∧ c = delimiter.closeChar ∧
    (pending past).head?.map (·.delimiter) ≠ some delimiter

/-- The tokens `past` are all that a text holds, and they leave a bracket open. -/
def EndsOpen (source : String) (past : List Token) : Prop :=
  ∃ lexer, Reached source past lexer ∧ lexer.finished = false ∧ lexer.settled.cursor.ahead = [] ∧
    pending past ≠ []

theorem Reached.fits_iff {source : String} {past : List Token} {lexer : Lexer}
    (reached : Reached source past lexer) (delimiter : Delimiter) :
    lexer.Fits (.closing delimiter) ↔
      (DataLexer.pending past).head?.map (·.delimiter) = some delimiter := by
  rw [← reached.head_pending, Option.map_map]
  exact Iff.rfl

namespace Lexer

theorem Meets.next_of_unfit {lexer : Lexer} {delimiter : Delimiter} {rest : List Char}
    (meets : lexer.Meets delimiter.closeChar rest) (unfit : ¬ lexer.Fits (.closing delimiter)) :
    ∃ span after, lexer.next =
      (.error (.unbalancedDelimiter (some delimiter.closeChar) span (lexer.frames.head?.map (·.opener))),
        after) := by
  have spells : (Form.closing delimiter).Spells delimiter.closeChar rest [] := ⟨rfl, rfl⟩
  rw [meets.next]
  simp only [scan, Reading.ofText_eq_lexeme_iff.mpr spells, take, close_of_unfit unfit]
  exact ⟨_, _, rfl⟩

theorem next_of_unclosed {lexer : Lexer} (running : lexer.finished = false)
    (nothing : lexer.settled.cursor.ahead = []) (opened : lexer.frames ≠ []) :
    ∃ span after, lexer.next =
      (.error (.unbalancedDelimiter none span (lexer.frames.head?.map (·.opener))), after) := by
  rw [next_of_nothing running nothing]
  unfold finish
  cases frames : lexer.frames with
  | nil => exact absurd frames opened
  | cons frame outer =>
    simp only [frames_settled, frames]
    exact ⟨_, _, rfl⟩

end Lexer

theorem MeetsStray.error {source : String} {past : List Token} {c : Char}
    (stray : MeetsStray source past c) :
    ∃ span, (tokenize source).error =
      some (.unbalancedDelimiter (some c) span (pending past).head?) := by
  obtain ⟨lexer, rest, delimiter, reached, running, here, rfl, unfit⟩ := stray
  obtain ⟨breaks, later, reachedLater, meets, newlines⟩ := reached.meets running here
  have samePending : pending (breaks ++ past) = pending past := pending_append_breaks newlines
  have unfitLater : ¬ later.Fits (.closing delimiter) := by
    rw [reachedLater.fits_iff, samePending]
    exact unfit
  obtain ⟨span, after, call⟩ := meets.next_of_unfit unfitLater
  rw [reachedLater.head_pending, samePending] at call
  exact ⟨span, by rw [reachedLater.tokenize_of_error call]⟩

theorem EndsOpen.error {source : String} {past : List Token} (ends : EndsOpen source past) :
    ∃ span, (tokenize source).error = some (.unbalancedDelimiter none span (pending past).head?) := by
  obtain ⟨lexer, reached, running, nothing, opened⟩ := ends
  have frames : lexer.frames ≠ [] := by
    intro none
    rw [← reached.pending, none] at opened
    exact opened rfl
  obtain ⟨span, after, call⟩ := Lexer.next_of_unclosed running nothing frames
  rw [reached.head_pending] at call
  exact ⟨span, by rw [reached.tokenize_of_error call]⟩

/-- What the brackets of a text do, call by call and at the end. -/
structure BracketDiscipline (source : String) : Prop where
  depth : ∀ past lexer, Reached source past lexer → lexer.depth + closings past = openings past
  frames : ∀ past lexer, Reached source past lexer → lexer.frames.map (·.opener) = pending past
  closers : ∀ past lexer, Reached source past lexer → ClosersFit past
  unchanged : ∀ past lexer error after, Reached source past lexer → lexer.next = (.error error, after) →
    after.depth = lexer.depth ∧ after.frames = lexer.frames
  balanced : (tokenize source).error = none → Balanced (tokenize source).tokens
  stray : ∀ c opener,
    (∃ span, (tokenize source).error = some (.unbalancedDelimiter (some c) span opener)) ↔
      ∃ past, MeetsStray source past c ∧ opener = (pending past).head?
  unclosed : ∀ opener,
    (∃ span, (tokenize source).error = some (.unbalancedDelimiter none span opener)) ↔
      ∃ past, EndsOpen source past ∧ opener = (pending past).head?

theorem Reached.depth {source : String} {past : List Token} {lexer : Lexer}
    (reached : Reached source past lexer) : lexer.depth + closings past = openings past := by
  have count := pending_length reached.closersFit
  rw [← reached.tells.frames.length_eq] at count
  exact count

theorem balanced_of_complete {source : String} (complete : (tokenize source).error = none) :
    Balanced (tokenize source).tokens := by
  obtain ⟨past, lexer, after, reached, _, _, closed, _, tokens⟩ := reached_of_complete complete
  have none : unmatched past = [] := by
    have frames := reached.tells.frames
    rw [Lexer.context, closed] at frames
    exact List.forall₂_nil_left_iff.mp frames
  rw [tokens]
  exact (balanced_of_unmatched_nil reached.closersFit none).plain rfl rfl

/-- The brackets of every text are kept in order. -/
theorem tokenize_discipline (source : String) : BracketDiscipline source where
  depth := fun _ _ reached => reached.depth
  frames := fun _ _ reached => reached.pending
  closers := fun _ _ reached => reached.closersFit
  unchanged := by
    intro past lexer error after _ call
    have same := (Lexer.step_of_next call).context_of_error
    have frames : after.frames = lexer.frames := congrArg Context.frames same
    exact ⟨congrArg List.length frames, frames⟩
  balanced := balanced_of_complete
  stray := by
    intro c opener
    constructor
    · rintro ⟨span, failed⟩
      obtain ⟨lexer, after, reached, call⟩ := reached_of_error failed
      have step := Lexer.step_of_next call
      cases step with
      | @unbalanced c rest delimiter meets same unfit =>
        refine ⟨_, ⟨lexer, rest, delimiter, reached, meets.running, meets.here, same, ?_⟩,
          reached.head_pending⟩
        rwa [reached.fits_iff] at unfit
    · rintro ⟨past, stray, rfl⟩
      exact stray.error
  unclosed := by
    intro opener
    constructor
    · rintro ⟨span, failed⟩
      obtain ⟨lexer, after, reached, call⟩ := reached_of_error failed
      have step := Lexer.step_of_next call
      cases step with
      | @unclosed frame outer running nothing opened =>
        refine ⟨_, ⟨lexer, reached, running, nothing, ?_⟩, ?_⟩
        · rw [← reached.pending, opened]
          simp
        · rw [← reached.head_pending, opened]
          rfl
    · rintro ⟨past, ends, rfl⟩
      exact ends.error

end DataLexer
