import Mathlib.Data.List.Forall2
import DataLexer.Proofs.Run

namespace DataLexer

namespace TokenKind

def opens? : TokenKind → Option Delimiter
  | blockOpen => some .block
  | arrayOpen => some .array
  | parenOpen => some .paren
  | _ => none

def closes? : TokenKind → Option Delimiter
  | blockClose => some .block
  | arrayClose => some .array
  | parenClose => some .paren
  | _ => none

theorem form?_closeKind (delimiter : Delimiter) :
    delimiter.closeKind.form? = some (.closing delimiter) := by
  cases delimiter <;> rfl

theorem eq_openKind {kind : TokenKind} {delimiter : Delimiter} (opens : kind.opens? = some delimiter) :
    kind = delimiter.openKind := by
  cases kind <;> cases opens <;> rfl

theorem eq_closeKind {kind : TokenKind} {delimiter : Delimiter} (closes : kind.closes? = some delimiter) :
    kind = delimiter.closeKind := by
  cases kind <;> cases closes <;> rfl

end TokenKind

/-- A token is significant unless it is a comment, a row break or the end. -/
def Token.isSignificant (token : Token) : Bool :=
  token.kind != .comment && token.kind != .newline && token.kind != .eof

theorem Token.isSignificant_iff {token : Token} : token.isSignificant = true ↔
    token.kind ≠ .comment ∧ token.kind ≠ .newline ∧ token.kind ≠ .eof := by
  simp [isSignificant, and_assoc]

theorem Token.insignificant_iff {token : Token} : token.isSignificant = false ↔
    token.kind = .comment ∨ token.kind = .newline ∨ token.kind = .eof := by
  simp [isSignificant]
  tauto

/-- The history up to its last significant token. A history is a list of tokens, latest first, and a token in
it is the part of the history that ends with it. -/
def lastSignificant (past : List Token) : List Token := past.dropWhile (!·.isSignificant)

/-- The tokens behind the last significant token. -/
def sinceSignificant (past : List Token) : List Token := past.takeWhile (!·.isSignificant)

/-- The opening tokens that no later token closes, innermost first. -/
def unmatched : List Token → List (List Token)
  | [] => []
  | token :: past =>
    if token.kind.opens?.isSome then (token :: past) :: unmatched past
    else if token.kind.closes?.isSome then (unmatched past).tail
    else unmatched past

/-- The parenthesis of a list of columns: the last significant token before it is the table keyword. -/
def OpensColumns : List Token → Prop
  | [] => False
  | token :: past =>
    token.kind = .parenOpen ∧ (lastSignificant past).head?.map (·.kind) = some .tableKeyword

/-- The end of a list of columns: the parenthesis that it closes opens one. -/
def ClosesColumns : List Token → Prop
  | [] => False
  | token :: past =>
    token.kind = .parenClose ∧ ∃ opening, (unmatched past).head? = some opening ∧ OpensColumns opening

/-- The square bracket of a list of rows: the last significant token before it ends a list of columns. -/
def OpensRows : List Token → Prop
  | [] => False
  | token :: past => token.kind = .arrayOpen ∧ ClosesColumns (lastSignificant past)

/-- A row has begun behind an opening token: it is not the last significant token, and no row break has
come since. -/
def RowBegun (past opening : List Token) : Prop :=
  lastSignificant past ≠ opening ∧ ∀ token ∈ sinceSignificant past, token.kind ≠ .newline

/-- A frame with the delimiter, the span and the role of an opening token. -/
def Frame.Records (frame : Frame) : List Token → Prop
  | [] => False
  | token :: past =>
    token.kind.opens? = some frame.opener.delimiter ∧ token.span = frame.opener.span ∧
      (frame.role = .columns ↔ OpensColumns (token :: past)) ∧
      ((∃ started, frame.role = .rows started) ↔ OpensRows (token :: past))

/-- The context that a history leaves behind. -/
structure Context.Tells (context : Context) (past : List Token) : Prop where
  frames : List.Forall₂ Frame.Records context.frames (unmatched past)
  begun : ∀ frame opening started, context.frames.head? = some frame →
    (unmatched past).head? = some opening → frame.role = .rows started →
    (started = true ↔ RowBegun past opening)
  outer : ∀ frame ∈ context.frames.tail, frame.role ≠ .rows false
  keyword : context.head = .keyword ↔ (lastSignificant past).head?.map (·.kind) = some .tableKeyword
  columns : context.head = .columns ↔ ClosesColumns (lastSignificant past)

theorem opensColumns_cons {token : Token} {past : List Token} :
    OpensColumns (token :: past) ↔
      token.kind = .parenOpen ∧ (lastSignificant past).head?.map (·.kind) = some .tableKeyword := Iff.rfl

theorem opensRows_cons {token : Token} {past : List Token} :
    OpensRows (token :: past) ↔ token.kind = .arrayOpen ∧ ClosesColumns (lastSignificant past) := Iff.rfl

theorem suffix_of_mem_unmatched {past opening : List Token} (member : opening ∈ unmatched past) :
    opening <:+ past := by
  induction past with
  | nil => simp [unmatched] at member
  | cons token past ih =>
    rw [unmatched] at member
    split at member
    · rcases List.mem_cons.mp member with rfl | outer
      · exact List.suffix_rfl
      · exact (ih outer).trans (List.suffix_cons token past)
    split at member
    · exact (ih (List.mem_of_mem_tail member)).trans (List.suffix_cons token past)
    · exact (ih member).trans (List.suffix_cons token past)

theorem ne_of_mem_unmatched {past opening : List Token} {token : Token}
    (member : opening ∈ unmatched past) : token :: past ≠ opening := by
  rintro rfl
  have shorter := (suffix_of_mem_unmatched member).length_le
  simp only [List.length_cons] at shorter
  omega

section Significant

variable {token : Token} {past : List Token}

theorem lastSignificant_of_significant (significant : token.isSignificant = true) :
    lastSignificant (token :: past) = token :: past := by
  simp [lastSignificant, significant]

theorem sinceSignificant_of_significant (significant : token.isSignificant = true) :
    sinceSignificant (token :: past) = [] := by
  simp [sinceSignificant, significant]

theorem lastSignificant_of_insignificant (insignificant : token.isSignificant = false) :
    lastSignificant (token :: past) = lastSignificant past := by
  simp [lastSignificant, insignificant]

theorem sinceSignificant_of_insignificant (insignificant : token.isSignificant = false) :
    sinceSignificant (token :: past) = token :: sinceSignificant past := by
  simp [sinceSignificant, insignificant]

/-- A significant token begins the row of every bracket that was open before it. -/
theorem rowBegun_of_significant (significant : token.isSignificant = true) {opening : List Token}
    (member : opening ∈ unmatched past) : RowBegun (token :: past) opening := by
  refine ⟨?_, ?_⟩
  · rw [lastSignificant_of_significant significant]
    exact ne_of_mem_unmatched member
  · simp [sinceSignificant_of_significant significant]

end Significant

section Between

variable {between past : List Token} (insignificant : ∀ token ∈ between, token.isSignificant = false)

include insignificant

theorem lastSignificant_append {last : Token} (significant : last.isSignificant = true) :
    lastSignificant (between ++ last :: past) = last :: past := by
  have all : ∀ token ∈ between, (!token.isSignificant) = true := by simpa using insignificant
  unfold lastSignificant
  rw [List.dropWhile_append_of_pos all]
  simp [significant]

theorem sinceSignificant_append {last : Token} (significant : last.isSignificant = true) :
    sinceSignificant (between ++ last :: past) = between := by
  have all : ∀ token ∈ between, (!token.isSignificant) = true := by simpa using insignificant
  unfold sinceSignificant
  rw [List.takeWhile_append_of_pos all]
  simp [significant]

theorem unmatched_append : unmatched (between ++ past) = unmatched past := by
  induction between with
  | nil => rfl
  | cons token between ih =>
    have first := insignificant token (List.mem_cons_self ..)
    have rest := ih fun other member => insignificant other (List.mem_cons_of_mem token member)
    rw [← rest]
    cases kind : token.kind <;> simp [Token.isSignificant, kind] at first <;>
      simp [unmatched, kind, TokenKind.opens?, TokenKind.closes?]

end Between

theorem Frame.Records.startRow {frame : Frame} {opening : List Token} (records : frame.Records opening) :
    frame.startRow.Records opening := by
  cases opening with
  | nil => exact records
  | cons token past =>
    obtain ⟨⟨delimiter, span⟩, role⟩ := frame
    cases role <;> simpa [Frame.Records, Frame.startRow] using records

theorem Frame.Records.endRow {frame : Frame} {opening : List Token} (records : frame.Records opening) :
    frame.endRow.Records opening := by
  cases opening with
  | nil => exact records
  | cons token past =>
    obtain ⟨⟨delimiter, span⟩, role⟩ := frame
    cases role <;> simpa [Frame.Records, Frame.endRow] using records

section Brackets

variable {token : Token} {past : List Token}

theorem unmatched_of_neither (opens : token.kind.opens? = none) (closes : token.kind.closes? = none) :
    unmatched (token :: past) = unmatched past := by
  simp [unmatched, opens, closes]

theorem unmatched_of_opens {delimiter : Delimiter} (opens : token.kind.opens? = some delimiter) :
    unmatched (token :: past) = (token :: past) :: unmatched past := by
  simp [unmatched, opens]

theorem unmatched_of_closes {delimiter : Delimiter} (closes : token.kind.closes? = some delimiter) :
    unmatched (token :: past) = (unmatched past).tail := by
  have opens : token.kind.opens? = none := by
    rw [TokenKind.eq_closeKind closes]
    cases delimiter <;> rfl
  simp [unmatched, opens, closes]

theorem rowBegun_of_insignificant {opening : List Token} (insignificant : token.isSignificant = false) :
    RowBegun (token :: past) opening ↔ RowBegun past opening ∧ token.kind ≠ .newline := by
  unfold RowBegun
  rw [lastSignificant_of_insignificant insignificant, sinceSignificant_of_insignificant insignificant]
  simp only [List.mem_cons, forall_eq_or_imp]
  tauto

end Brackets

namespace Frame

theorem startRow_role {frame : Frame} {started : Bool} (rows : frame.startRow.role = .rows started) :
    started = true := by
  obtain ⟨opener, role⟩ := frame
  cases role <;> cases rows
  rfl

theorem endRow_role {frame : Frame} {started : Bool} (rows : frame.endRow.role = .rows started) :
    started = false := by
  obtain ⟨opener, role⟩ := frame
  cases role <;> cases rows
  rfl

end Frame

section Pairs

variable {α β : Type} {R : α → β → Prop} {as : List α} {bs : List β}

theorem forall₂_modifyHead {f : α → α} {g : β → β} (related : List.Forall₂ R as bs)
    (kept : ∀ a b, R a b → R (f a) (g b)) : List.Forall₂ R (as.modifyHead f) (bs.modifyHead g) := by
  cases related with
  | nil => exact .nil
  | cons first rest => exact .cons (kept _ _ first) rest

theorem forall₂_tail (related : List.Forall₂ R as bs) : List.Forall₂ R as.tail bs.tail := by
  cases related with
  | nil => exact .nil
  | cons first rest => exact rest

theorem forall₂_head? (related : List.Forall₂ R as bs) {a : α} (first : as.head? = some a) :
    ∃ b, bs.head? = some b ∧ R a b := by
  cases related with
  | nil => cases first
  | cons pair rest =>
    cases first
    exact ⟨_, rfl, pair⟩

end Pairs

namespace Context

namespace Tells

variable {context : Context} {past : List Token} {token : Token}

theorem modifyHead (tells : context.Tells past) {change : Frame → Frame}
    (kept : ∀ frame opening, Frame.Records frame opening → (change frame).Records opening) :
    List.Forall₂ Frame.Records (context.frames.modifyHead change) (unmatched past) := by
  have changed := forall₂_modifyHead (g := id) tells.frames kept
  rwa [List.modifyHead_id] at changed

theorem startRow (tells : context.Tells past) :
    List.Forall₂ Frame.Records context.startRow (unmatched past) :=
  tells.modifyHead fun _ _ => Frame.Records.startRow

/-- In no frame is a row still to begin once a token stands in the innermost one. -/
theorem begun_startRow (tells : context.Tells past) :
    ∀ frame ∈ context.startRow, frame.role ≠ .rows false := by
  obtain ⟨frames, head⟩ := context
  have outer := tells.outer
  unfold Context.startRow
  cases frames with
  | nil => simp
  | cons innermost rest =>
    intro frame member rows
    rcases List.mem_cons.mp member with rfl | below
    · cases Frame.startRow_role rows
    · exact outer frame below rows

theorem aside (tells : context.Tells past) (opens : token.kind.opens? = none)
    (closes : token.kind.closes? = none) (insignificant : token.isSignificant = false)
    (unbroken : token.kind ≠ .newline) : context.Tells (token :: past) where
  frames := by
    rw [unmatched_of_neither opens closes]
    exact tells.frames
  begun := by
    intro frame opening started innermost opened rows
    rw [unmatched_of_neither opens closes] at opened
    rw [rowBegun_of_insignificant insignificant, tells.begun frame opening started innermost opened rows]
    exact (and_iff_left unbroken).symm
  outer := tells.outer
  keyword := by
    rw [lastSignificant_of_insignificant insignificant]
    exact tells.keyword
  columns := by
    rw [lastSignificant_of_insignificant insignificant]
    exact tells.columns

theorem rowBreak (tells : context.Tells past) (kind : token.kind = .newline) :
    Tells ⟨context.frames.modifyHead Frame.endRow, context.head⟩ (token :: past) := by
  have insignificant := Token.insignificant_iff.mpr (Or.inr (Or.inl kind))
  constructor
  · rw [unmatched_of_neither (by rw [kind]; rfl) (by rw [kind]; rfl)]
    exact tells.modifyHead fun _ _ => Frame.Records.endRow
  · intro frame opening started innermost _ rows
    have fresh : started = false := by
      rw [List.head?_modifyHead, Option.map_eq_some_iff] at innermost
      obtain ⟨_, _, rfl⟩ := innermost
      exact Frame.endRow_role rows
    rw [rowBegun_of_insignificant insignificant]
    simp [fresh, kind]
  · simpa using tells.outer
  · rw [lastSignificant_of_insignificant insignificant]
    exact tells.keyword
  · rw [lastSignificant_of_insignificant insignificant]
    exact tells.columns

/-- A word, a sign or a value starts a row and ends every table head but the one that it begins. -/
theorem plain (tells : context.Tells past) (opens : token.kind.opens? = none)
    (closes : token.kind.closes? = none) (significant : token.isSignificant = true) {head : TableHead}
    (keyword : head = .keyword ↔ token.kind = .tableKeyword) (noColumns : head ≠ .columns) :
    Tells ⟨context.startRow, head⟩ (token :: past) where
  frames := by
    rw [unmatched_of_neither opens closes]
    exact tells.startRow
  begun := by
    intro frame opening started innermost opened rows
    have begun := tells.begun_startRow frame (List.mem_of_head? innermost)
    rw [unmatched_of_neither opens closes] at opened
    cases started with
    | false => exact absurd rows begun
    | true => simpa using rowBegun_of_significant significant (List.mem_of_head? opened)
  outer := fun frame member => tells.begun_startRow frame (List.mem_of_mem_tail member)
  keyword := by
    rw [lastSignificant_of_significant significant]
    simpa using keyword
  columns := by
    rw [lastSignificant_of_significant significant]
    refine iff_of_false noColumns fun ends => ?_
    have paren : token.kind = .parenClose := ends.1
    rw [paren] at closes
    cases closes

theorem opening (tells : context.Tells past) {delimiter : Delimiter}
    (opens : token.kind.opens? = some delimiter) :
    (context.opened delimiter token.span).Tells (token :: past) := by
  have kind := TokenKind.eq_openKind opens
  have significant : token.isSignificant = true := by
    cases delimiter <;> simp [Token.isSignificant, kind, Delimiter.openKind]
  have role : context.head.roleOf delimiter ≠ .rows true := by
    cases context.head <;> cases delimiter <;> simp [TableHead.roleOf]
  constructor
  · rw [unmatched_of_opens opens]
    refine .cons ⟨opens, rfl, ?_, ?_⟩ tells.startRow
    · rw [opensColumns_cons, ← tells.keyword, kind]
      cases context.head <;> cases delimiter <;> simp [TableHead.roleOf, Delimiter.openKind]
    · rw [opensRows_cons, ← tells.columns, kind]
      cases context.head <;> cases delimiter <;> simp [TableHead.roleOf, Delimiter.openKind]
  · intro frame opening started innermost opened rows
    rw [unmatched_of_opens opens] at opened
    cases innermost
    cases opened
    have fresh : ¬ RowBegun (token :: past) (token :: past) :=
      fun begun => begun.1 (lastSignificant_of_significant significant)
    cases started with
    | false => simpa using fresh
    | true => exact absurd rows role
  · exact tells.begun_startRow
  · rw [lastSignificant_of_significant significant]
    cases delimiter <;> simp [Context.opened, kind, Delimiter.openKind]
  · rw [lastSignificant_of_significant significant]
    cases delimiter <;> simp [Context.opened, ClosesColumns, kind, Delimiter.openKind]

theorem closing (tells : context.Tells past) {delimiter : Delimiter}
    (closes : token.kind.closes? = some delimiter)
    (fits : context.frames.head?.map (·.opener.delimiter) = some delimiter) :
    context.closed.Tells (token :: past) := by
  have kind := TokenKind.eq_closeKind closes
  have significant : token.isSignificant = true := by
    cases delimiter <;> simp [Token.isSignificant, kind, Delimiter.closeKind]
  obtain ⟨frame, innermost, same⟩ := Option.map_eq_some_iff.mp fits
  obtain ⟨opening, opened, records⟩ := forall₂_head? tells.frames innermost
  have columns : frame.role = .columns ↔ ClosesColumns (token :: past) := by
    cases opening with
    | nil => exact records.elim
    | cons first before =>
      obtain ⟨opens, _, role, _⟩ := records
      rw [role]
      constructor
      · intro begins
        have paren : delimiter = .paren := by
          rw [same, begins.1] at opens
          cases opens
          rfl
        exact ⟨by rw [kind, paren]; rfl, _, opened, begins⟩
      · rintro ⟨_, other, found, begins⟩
        cases opened.symm.trans found
        exact begins
  constructor
  · rw [unmatched_of_closes closes]
    exact forall₂_tail tells.frames
  · intro next below started innermost found rows
    rw [unmatched_of_closes closes] at found
    cases started with
    | false => exact absurd rows (tells.outer next (List.mem_of_head? innermost))
    | true =>
      simpa using rowBegun_of_significant significant
        (List.mem_of_mem_tail (List.mem_of_head? found))
  · exact fun next member => tells.outer next (List.mem_of_mem_tail member)
  · rw [lastSignificant_of_significant significant]
    refine iff_of_false ?_ ?_
    · unfold Context.closed
      split <;> simp
    · cases delimiter <;> simp [kind, Delimiter.closeKind]
  · rw [lastSignificant_of_significant significant, ← columns]
    simp [Context.closed, innermost]

/-- What a history tells is known from its last token and what the history before it tells. -/
theorem behind (tells : context.Tells past)
    (fits : ∀ delimiter, token.kind.closes? = some delimiter →
      context.frames.head?.map (·.opener.delimiter) = some delimiter) :
    (context.behind token).Tells (token :: past) := by
  cases kind : token.kind with
  | comment | eof =>
    simp only [Context.behind, kind]
    exact tells.aside (by rw [kind]; rfl) (by rw [kind]; rfl) (by simp [Token.isSignificant, kind])
      (by simp [kind])
  | newline =>
    simp only [Context.behind, kind]
    exact tells.rowBreak kind
  | blockOpen | arrayOpen | parenOpen =>
    simp only [Context.behind, kind]
    exact tells.opening (by rw [kind]; rfl)
  | blockClose | arrayClose | parenClose =>
    simp only [Context.behind, kind]
    exact tells.closing (by rw [kind]; rfl) (fits _ (by rw [kind]; rfl))
  | tableKeyword | key | colon | string | number | boolean | identifier | comma =>
    simp only [Context.behind, kind]
    exact tells.plain (by rw [kind]; rfl) (by rw [kind]; rfl) (by simp [Token.isSignificant, kind])
      (by simp [kind]) (by simp)

end Tells

theorem tells_nil : Tells {} [] where
  frames := .nil
  begun := by simp
  outer := by simp
  keyword := by simp [lastSignificant]
  columns := by simp [lastSignificant, ClosesColumns]

end Context

namespace Lexer

variable {lexer after : Lexer} {token : Token}

/-- Every token leaves behind what its kind and its span say, the end included. -/
theorem Step.context (step : Step lexer (.ok token) after) :
    after.context = lexer.context.behind token := by
  cases step with
  | done | last => rfl
  | rowBreak => exact context_endRow lexer _
  | lexeme _ _ _ passes => exact passes.context

theorem Step.context_of_error {error : LexError} (step : Step lexer (.error error) after) :
    after.context = lexer.context := by
  cases step <;> rfl

theorem Step.fits (step : Step lexer (.ok token) after) {delimiter : Delimiter}
    (closes : token.kind.closes? = some delimiter) :
    lexer.frames.head?.map (·.opener.delimiter) = some delimiter := by
  cases step with
  | done | last | rowBreak => cases closes
  | lexeme _ _ fits passes =>
    have form := passes.form
    rw [TokenKind.eq_closeKind closes, TokenKind.form?_closeKind] at form
    cases form
    exact fits

end Lexer

/-- The tokens given so far, taken alone, tell what is open and in which rows. -/
theorem Reached.tells {source : String} {past : List Token} {lexer : Lexer}
    (reached : Reached source past lexer) : lexer.context.Tells past := by
  induction reached with
  | start => exact Context.tells_nil
  | token _ call ih =>
    have step := Lexer.step_of_next call
    rw [step.context]
    exact ih.behind fun _ => step.fits
  | failed _ call ih =>
    rw [(Lexer.step_of_next call).context_of_error]
    exact ih

end DataLexer
