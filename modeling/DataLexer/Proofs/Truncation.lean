import DataLexer.Proofs.Abreast
import DataLexer.Proofs.Extension

namespace DataLexer

theorem looser_of_append (text more : List Char) : Looser (text ++ more) text := by
  intro c found
  exact Or.inl (by rw [List.head?_append, found]; rfl)

theorem startsComment_of_append {c : Char} {rest : List Char} (starts : Reading.startsComment c rest = true)
    (more : List Char) : Reading.startsComment c (rest ++ more) = true := by
  cases rest with
  | nil =>
    have sharp : c = '#' := by simpa [Reading.startsComment] using starts
    simp [Reading.startsComment, sharp]
  | cons d rest => simpa [Reading.startsComment] using starts

/-- No colon is next on a line because of a text with none at its start. -/
theorem colonNext_of_append {more : List Char} (noColon : ¬ ColonNext more) (text : List Char) :
    ColonNext (text ++ more) ↔ ColonNext text := by
  unfold ColonNext at noColon ⊢
  rw [List.dropWhile_append]
  cases solid : text.dropWhile isInlineBlank with
  | nil => simpa using noColon
  | cons c rest => simp

/-- What stops a lexeme still does when the text behind it is cut off before a solid character. -/
theorem Form.Stops.truncated {form : Form} {tail after more : List Char}
    (stops : form.Stops tail (after ++ more)) (solid : ∀ c, more.head? = some c → isBlank c = false) :
    form.Stops tail after := by
  cases form with
  | comment =>
    obtain ⟨ended, returned⟩ := stops
    refine ⟨?_, fun feed => returned (by rw [List.head?_append, feed]; rfl)⟩
    match after with
    | [] => exact .text
    | [c] =>
      cases ended with
      | feed => exact .feed
      | returned => exact absurd (solid '\n' rfl) (by decide)
    | c :: d :: after =>
      cases ended with
      | feed => exact .feed
      | returned => exact .returned
  | number =>
    refine Reading.numberTail_of_looser stops (looser_of_append after more) ?_
    rintro rest rest' same rfl
    obtain ⟨_, rfl⟩ := List.cons.inj same
    exact looser_of_append rest' more
  | name =>
    intro c head
    exact stops c (by rw [List.head?_append, head]; rfl)
  | string | colon | comma | opening | closing => trivial

namespace Lexer

variable {lexer after : Lexer} {token : Token} {c : Char} {rest left more : List Char}

/-- Where a text is read to its end, more text is all that is ahead. -/
theorem ahead_settled_extended (nothing : lexer.settled.cursor.ahead = [])
    (unmarked : lexer.cursor.ahead = [] → more.head? ≠ some '\uFEFF') :
    (lexer.extended more).settled.cursor.ahead = more.dropWhile isBlank := by
  have skipped : (lexer.extended more).cursor.skipByteOrderMark =
      lexer.cursor.skipByteOrderMark.extended more := Cursor.skipByteOrderMark_extended unmarked
  unfold settled at nothing ⊢
  rw [Cursor.ahead_advanceWhile] at nothing ⊢
  rw [skipped]
  exact (List.dropWhile_append ..).trans (by rw [nothing]; rfl)

theorem ahead_settled_extended_le (nothing : lexer.settled.cursor.ahead = []) :
    (lexer.extended more).settled.cursor.ahead.length ≤ more.length := by
  by_cases empty : lexer.cursor.ahead = []
  · have whole : (lexer.extended more).cursor.ahead = more := by simp [extended, Cursor.extended, empty]
    have skipped := ahead_skipByteOrderMark_le (lexer.extended more).cursor
    rw [whole] at skipped
    exact Nat.le_trans (ahead_advanceWhile_le _ isBlank) skipped
  · rw [ahead_settled_extended nothing fun none => absurd none empty]
    exact (List.dropWhile_suffix isBlank).length_le

/-- What is met before the cut is met in the text that is cut off. -/
theorem here_truncated (here : (lexer.extended more).settled.cursor.ahead = c :: (rest ++ more)) :
    lexer.settled.cursor.ahead = c :: rest := by
  cases ahead : lexer.settled.cursor.ahead with
  | nil =>
    have short : (lexer.extended more).settled.cursor.ahead.length ≤ more.length :=
      ahead_settled_extended_le ahead
    rw [here, List.length_cons, List.length_append] at short
    omega
  | cons d rest' =>
    obtain ⟨rfl, same⟩ := List.cons.inj ((here_extended ahead).symm.trans here)
    rw [List.append_cancel_right same]

theorem nothing_truncated (here : (lexer.extended more).settled.cursor.ahead = more) :
    lexer.settled.cursor.ahead = [] := by
  cases ahead : lexer.settled.cursor.ahead with
  | nil => rfl
  | cons c rest =>
    have longer := congrArg List.length ((here_extended ahead).symm.trans here)
    rw [List.length_cons, List.length_append] at longer
    omega

/-- A token is the same when the text is cut off behind it, unless it is a row break and nothing is left
behind it. -/
theorem next_truncated (call : (lexer.extended more).next = (.ok token, after))
    (goesOn : token.isEof = false) (behind : after.cursor.ahead = left ++ more)
    (inside : token.kind = .newline → left ≠ [])
    (solid : ∀ c, more.head? = some c → isBlank c = false) (noColon : ¬ ColonNext more) :
    ∃ shorter, lexer.next = (.ok token, shorter) ∧ after = shorter.extended more := by
  cases step_of_next call with
  | done | last => cases goesOn
  | @rowBreak c rest _ _ _ running here ends gap =>
    obtain ⟨rest, rfl⟩ : ∃ left, rest = left ++ more := by
      cases left with
      | nil => exact absurd rfl (inside rfl)
      | cons d left => exact ⟨left, (List.cons.inj (here.symm.trans behind)).2⟩
    have here' := here_truncated here
    have ends' : lexer.rowEnds c rest = true := by
      obtain ⟨rows, bracket, noComment⟩ := rowEnds_iff.mp ends
      refine rowEnds_iff.mpr ⟨rows, bracket, ?_⟩
      exact Bool.eq_false_iff.mpr fun starts => by simp [startsComment_of_append starts more] at noComment
    have member : '\n' ∈ (lexer.extended more).gap := by rw [gap]; simp
    rw [gap_extended here'] at member
    obtain ⟨span, found⟩ := lineFeed?_isSome member
    have found' : (lexer.extended more).cursor.skipByteOrderMark.lineFeed? = some span :=
      (lineFeed?_extended here').trans found
    cases call.symm.trans (next_of_break running here found' ends)
    refine ⟨_, next_of_break running here' found ends', ?_⟩
    rw [settled_extended here']
    rfl
  | @lexeme c rest tail form _ _ meets spells fits passes =>
    obtain rfl : rest = tail ++ left ++ more := by
      rw [List.append_assoc, ← behind]
      exact (List.cons.inj (meets.here.symm.trans passes.ahead)).2
    have here' := here_truncated meets.here
    have spells' : form.Spells c (tail ++ left) tail := by
      rw [List.append_assoc] at spells
      obtain ⟨alone, stops⟩ := Form.spells_append_iff.mp spells
      exact Form.spells_append_iff.mpr ⟨alone, stops.truncated solid⟩
    have comment : Reading.startsComment c (tail ++ left ++ more) =
        Reading.startsComment c (tail ++ left) := by
      rw [Bool.eq_iff_iff, spells.startsComment_iff, spells'.startsComment_iff]
    have meets' : lexer.Meets c (tail ++ left) := by
      refine ⟨meets.running, here', ?_⟩
      rintro ⟨feed, ends⟩
      have fed : '\n' ∈ (lexer.extended more).gap := by rwa [gap_extended here']
      exact meets.unbroken ⟨fed, (rowEnds_alike (Context.Alike.refl _) comment).trans ends⟩
    have fits' : lexer.Fits form := fits_alike (Context.Alike.refl _) fits
    obtain ⟨token', shorter, call', passes'⟩ := meets'.takes spells' fits'
    obtain ⟨rfl, rfl⟩ := (passes'.extended fun _ => colonNext_of_append noColon _).unique passes
    exact ⟨shorter, call', rfl⟩

end Lexer

/-- What has been read of a text before its part `more` has been read of the text without that part. A
row break is given before the text that goes on behind it, so it may not stand at the cut. -/
theorem Reached.truncated {source front : String} {more : List Char}
    (whole : source.toList = front.toList ++ more)
    (solid : ∀ c, more.head? = some c → isBlank c = false) (noColon : ¬ ColonNext more)
    {past : List Token} {lexer : Lexer} (reached : Reached source past lexer)
    (running : lexer.finished = false) (room : more.length ≤ lexer.cursor.ahead.length)
    (inside : past.head?.map (·.kind) = some .newline → more.length < lexer.cursor.ahead.length) :
    ∃ shorter, Reached front past shorter ∧ lexer = shorter.extended more := by
  induction reached with
  | start =>
    refine ⟨.ofText front, .start, ?_⟩
    simp only [Lexer.ofText, Lexer.extended, Cursor.extended, Cursor.ofText, whole]
  | @token past lexer token after earlier call ih =>
    have step := Lexer.step_of_next call
    have goesOn := step.finished.symm.trans running
    have ran := step.running_of_token goesOn
    have shrinks := Lexer.ahead_next_lt call goesOn
    obtain ⟨shorter, before, rfl⟩ := ih ran (by omega) fun _ => by omega
    -- the text behind the token ends in the part that is cut off
    have suffix : after.cursor.ahead <:+ source.toList :=
      ⟨_, ((earlier.token call).standing running).whole⟩
    obtain ⟨left, behind⟩ := List.suffix_of_suffix_length_le ⟨_, whole.symm⟩ suffix room
    have within : token.kind = .newline → left ≠ [] := by
      rintro kind rfl
      have longer := inside (by simp [kind])
      rw [← behind] at longer
      simp at longer
    obtain ⟨cut, call', same⟩ := Lexer.next_truncated call goesOn behind.symm within solid noColon
    exact ⟨cut, before.token call', same⟩
  | failed _ call => exact absurd (Lexer.step_of_next call).finished_of_error (by simp [running])

end DataLexer
