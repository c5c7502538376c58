import DataLexer.Proofs.History

namespace DataLexer

/-- Frames that differ at most in the places of their brackets. -/
def Frame.Alike (frame other : Frame) : Prop :=
  frame.opener.delimiter = other.opener.delimiter ∧ frame.role = other.role

/-- Contexts that differ at most in the places of their brackets. -/
structure Context.Alike (context other : Context) : Prop where
  frames : List.Forall₂ Frame.Alike context.frames other.frames
  head : context.head = other.head

namespace Frame.Alike

variable {frame other : Frame}

theorem startRow (alike : frame.Alike other) : frame.startRow.Alike other.startRow := by
  obtain ⟨opener, role⟩ := frame
  obtain ⟨opener', role'⟩ := other
  obtain ⟨same, rfl⟩ := alike
  cases role <;> exact ⟨same, rfl⟩

theorem endRow (alike : frame.Alike other) : frame.endRow.Alike other.endRow := by
  obtain ⟨opener, role⟩ := frame
  obtain ⟨opener', role'⟩ := other
  obtain ⟨same, rfl⟩ := alike
  cases role <;> exact ⟨same, rfl⟩

end Frame.Alike

namespace Context.Alike

theorem refl (context : Context) : context.Alike context :=
  ⟨List.forall₂_same.mpr fun _ _ => ⟨rfl, rfl⟩, rfl⟩

variable {context other : Context}

theorem startRow (alike : context.Alike other) :
    List.Forall₂ Frame.Alike context.startRow other.startRow :=
  forall₂_modifyHead alike.frames fun _ _ => Frame.Alike.startRow

theorem head_frames (alike : context.Alike other) :
    context.frames.head?.map (·.opener.delimiter) = other.frames.head?.map (·.opener.delimiter) ∧
      context.frames.head?.map (·.role) = other.frames.head?.map (·.role) := by
  obtain ⟨frames, head⟩ := context
  obtain ⟨frames', head'⟩ := other
  cases alike.frames with
  | nil => exact ⟨rfl, rfl⟩
  | cons first rest => exact ⟨congrArg some first.1, congrArg some first.2⟩

theorem any_role (alike : context.Alike other) (role : Role) :
    context.frames.head?.any (·.role = role) = other.frames.head?.any (·.role = role) := by
  have same := congrArg (Option.any (· = role)) alike.head_frames.2
  simpa [Option.any_map, Function.comp_def] using same

theorem opened (alike : context.Alike other) (delimiter : Delimiter) (span span' : Span) :
    (context.opened delimiter span).Alike (other.opened delimiter span') where
  frames := .cons ⟨rfl, congrArg (TableHead.roleOf · delimiter) alike.head⟩ alike.startRow
  head := rfl

theorem closed (alike : context.Alike other) : context.closed.Alike other.closed where
  frames := forall₂_tail alike.frames
  head := by
    unfold Context.closed
    rw [alike.any_role .columns]

/-- Tokens of one kind keep contexts alike. -/
theorem behind (alike : context.Alike other) {token again : Token} (same : again.kind = token.kind) :
    (context.behind token).Alike (other.behind again) := by
  cases kind : token.kind with
  | comment | eof =>
    simp only [Context.behind, same, kind]
    exact alike
  | newline =>
    simp only [Context.behind, same, kind]
    exact ⟨forall₂_modifyHead alike.frames fun _ _ => Frame.Alike.endRow, alike.head⟩
  | blockOpen | arrayOpen | parenOpen =>
    simp only [Context.behind, same, kind]
    exact alike.opened _ _ _
  | blockClose | arrayClose | parenClose =>
    simp only [Context.behind, same, kind]
    exact alike.closed
  | tableKeyword | key | colon | string | number | boolean | identifier | comma =>
    simp only [Context.behind, same, kind]
    exact ⟨alike.startRow, rfl⟩

end Context.Alike

namespace Lexer

variable {lexer copy : Lexer}

theorem fits_alike (alike : lexer.context.Alike copy.context) {form : Form} (fits : lexer.Fits form) :
    copy.Fits form := by
  cases form with
  | closing delimiter => exact alike.head_frames.1.symm.trans fits
  | _ => trivial

/-- A name has one kind in both, unless only one has a colon behind it. -/
theorem kindOf_alike (alike : lexer.context.Alike copy.context) {lexeme lexeme' rest rest' : List Char}
    {form : Form}
    (name : form = .name → lexeme' = lexeme ∧ ((rest'.dropWhile isInlineBlank).head? = some ':' ↔
      (rest.dropWhile isInlineBlank).head? = some ':')) :
    copy.kindOf lexeme' rest' form = lexer.kindOf lexeme rest form := by
  cases form with
  | name =>
    obtain ⟨rfl, colon⟩ := name rfl
    have columns : lexer.frames.head?.any (·.role = .columns) = copy.frames.head?.any (·.role = .columns) :=
      alike.any_role .columns
    simp only [kindOf, nameKind, columns, colon]
  | _ => rfl

theorem rowEnds_alike (alike : lexer.context.Alike copy.context) {c : Char} {rest rest' : List Char}
    (comment : Reading.startsComment c rest' = Reading.startsComment c rest) :
    copy.rowEnds c rest' = lexer.rowEnds c rest := by
  have rows : lexer.frames.head?.any (·.role = .rows true) =
      copy.frames.head?.any (·.role = .rows true) := alike.any_role (.rows true)
  simp only [rowEnds, rows, comment]

end Lexer

end DataLexer
