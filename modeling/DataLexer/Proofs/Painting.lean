import Mathlib.Data.List.Infix
import DataLexer.Highlight.Paint
import DataLexer.Proofs.Faults
import DataLexer.Proofs.Requests

namespace DataLexer

/-- A part of a text and the parameters of the escape sequence that it is drawn in, if any. -/
structure Stretch where
  text : List Char
  code : Option String
  plain : ∀ parameters, code = some parameters →
    'm' ∉ parameters.toList ∧ '\x1b' ∉ parameters.toList

/-- A coloured stretch stands between its escape sequence and a reset. -/
def Stretch.shown (stretch : Stretch) : List Char :=
  match stretch.code with
  | some parameters => (Highlights.styled parameters stretch.text).toList
  | none => stretch.text

/-- A text in the code of a style, if it has one. -/
def Style.draw (style : Style) (text : List Char) : String :=
  match style.ansi? with
  | some parameters => Highlights.styled parameters text
  | none => String.ofList text

namespace Highlights

/-- What `pieces` draws, with every part cut out of the whole source by its bytes: `none` where a cut is
out of order, past the end or inside a character. -/
def slices? (source : List Char) (error : Option (Nat × Nat)) :
    List HighlightRange → Nat → Option (List String)
  | [], drawn =>
    match error with
    | none => do
      let rest ← slice? source drawn (byteLength source)
      return [String.ofList rest]
    | some (start, stop) => do
      let here := max start drawn
      let there := max stop here
      let before ← slice? source drawn here
      let marked ← slice? source here there
      let after ← slice? source there (byteLength source)
      return [String.ofList before, if marked.isEmpty then "" else styled "4;31" marked,
        String.ofList after]
  | range :: ranges, drawn => do
    let before ← slice? source drawn range.start
    let lexeme ← slice? source range.start range.stop
    let rest ← slices? source error ranges range.stop
    return String.ofList before :: range.style.draw lexeme :: rest

end Highlights

/-- Ranges that lie one behind the other on a text that starts at byte `drawn`, and the range of an error
behind them. -/
inductive Laid (error : Option (Nat × Nat)) : List HighlightRange → Nat → List Char → Prop
  | plain {drawn text} : error = none → Laid error [] drawn text
  | error {drawn start before marked after} : start = drawn + byteLength before →
      error = some (start, start + byteLength marked) → Laid error [] drawn (before ++ (marked ++ after))
  | range {drawn start before lexeme after kind ranges} : start = drawn + byteLength before →
      Laid error ranges (start + byteLength lexeme) after →
      Laid error (⟨start, start + byteLength lexeme, kind⟩ :: ranges) drawn (before ++ (lexeme ++ after))

namespace Laid

variable {error : Option (Nat × Nat)} {ranges : List HighlightRange} {drawn : Nat} {text : List Char}

theorem prepend {front : List Char} (laid : Laid error ranges (drawn + byteLength front) text) :
    Laid error ranges drawn (front ++ text) := by
  cases laid with
  | plain none => exact .plain none
  | error start found =>
    rw [← List.append_assoc]
    exact .error (by rw [start, byteLength_append, Nat.add_assoc]) found
  | range start rest =>
    rw [← List.append_assoc]
    exact .range (by rw [start, byteLength_append, Nat.add_assoc]) rest

end Laid

/-- The tokens of a text have ranges that lie on it, before those that lie on the rest. -/
theorem Layout.laid {text rest : List Char} {past : List Token} {error : Option (Nat × Nat)}
    {ranges : List HighlightRange} (layout : Layout text past)
    (behind : Laid error ranges (byteLength text) rest) :
    Laid error (past.reverse.filterMap Token.range? ++ ranges) 0 (text ++ rest) := by
  induction layout generalizing ranges rest with
  | start => exact behind
  | mark => exact .prepend (by simpa using behind)
  | @blank text past c _ _ ih =>
    rw [byteLength_append] at behind
    rw [List.append_assoc]
    exact ih behind.prepend
  | @token text past lexeme kind _ _ _ _ ih =>
    rw [byteLength_append] at behind
    rw [List.append_assoc, List.reverse_cons, List.filterMap_append, List.append_assoc]
    refine ih ?_
    by_cases newline : kind = .newline
    · simpa [Token.range?, newline] using behind.prepend
    · have range : Laid error (⟨byteLength text, byteLength text + byteLength lexeme, kind⟩ :: ranges)
          (byteLength text) ([] ++ (lexeme ++ rest)) := .range rfl behind
      simpa [Token.range?, newline, Position.upTo] using range

namespace Stretch

@[simps] def bare (text : List Char) : Stretch := ⟨text, none, by simp⟩

@[simps] def underlined (text : List Char) : Stretch := ⟨text, some "4;31", by decide⟩

@[simps] def ofStyle (style : Style) (text : List Char) : Stretch :=
  ⟨text, style.ansi?, by cases style <;> decide⟩

@[simp] theorem shown_bare (text : List Char) : (bare text).shown = text := rfl

@[simp] theorem shown_underlined (text : List Char) :
    (underlined text).shown = (Highlights.styled "4;31" text).toList := rfl

@[simp] theorem shown_ofStyle (style : Style) (text : List Char) :
    (ofStyle style text).shown = (style.draw text).toList := by
  cases style with
  | plain => exact String.toList_ofList.symm
  | _ => rfl

end Stretch

namespace Highlights

variable {drawn start : Nat} {before middle after : List Char}

theorem cut_append (before after : List Char) :
    cut (before ++ after) (byteLength before) = (before, after) := by
  rw [cut, splitAtByte?_append]
  rfl

theorem errorPieces_append (begins : start = drawn + byteLength before) :
    errorPieces (some (start, start + byteLength middle)) drawn (before ++ (middle ++ after)) =
      [String.ofList before, if middle.isEmpty then "" else styled "4;31" middle, String.ofList after] := by
  have later : max start drawn = start := by omega
  have lead : start - drawn = byteLength before := by omega
  simp only [errorPieces, later, lead, cut_append, Nat.add_sub_cancel_left]

theorem pieces_append (error : Option (Nat × Nat)) (kind : TokenKind) (ranges : List HighlightRange)
    (begins : start = drawn + byteLength before) :
    pieces error (⟨start, start + byteLength middle, kind⟩ :: ranges) drawn
        (before ++ (middle ++ after)) =
      String.ofList before :: kind.style.draw middle ::
        pieces error ranges (start + byteLength middle) after := by
  have lead : start - drawn = byteLength before := by omega
  simp only [pieces, lead, cut_append, Nat.add_sub_cancel_left]
  rfl

end Highlights

theorem slice?_of_append {source front middle after : List Char} {start stop : Nat}
    (whole : source = front ++ (middle ++ after)) (begins : start = byteLength front)
    (upTo : stop = start + byteLength middle) : slice? source start stop = some middle := by
  have cut := slice?_append front middle after
  rwa [List.append_assoc, ← whole, byteLength_append, ← begins, ← upTo] at cut

namespace Laid

variable {error : Option (Nat × Nat)} {ranges : List HighlightRange} {drawn : Nat} {text : List Char}

/-- Every slice that is taken out of the whole source is the one that is cut off what is left. -/
theorem slices (laid : Laid error ranges drawn text) {source front : List Char}
    (whole : source = front ++ text) (here : drawn = byteLength front) :
    Highlights.slices? source error ranges drawn = some (Highlights.pieces error ranges drawn text) := by
  induction laid generalizing front with
  | @plain drawn text none =>
    have whole' : source = front ++ (text ++ []) := by rw [whole, List.append_nil]
    have rest : slice? source drawn (byteLength source) = some text := by
      refine slice?_of_append whole' here ?_
      rw [whole, byteLength_append, here]
    simp [Highlights.slices?, Highlights.pieces, Highlights.errorPieces, none, rest]
  | @error drawn start before marked after begins found =>
    have lead : slice? source drawn start = some before := slice?_of_append whole here begins
    have afterLead : source = (front ++ before) ++ (marked ++ after) := by rw [whole, List.append_assoc]
    have inner : slice? source start (start + byteLength marked) = some marked := by
      refine slice?_of_append afterLead ?_ rfl
      rw [byteLength_append, ← here, begins]
    have afterInner : source = (front ++ before ++ marked) ++ (after ++ []) := by simp [whole]
    have rest : slice? source (start + byteLength marked) (byteLength source) = some after := by
      refine slice?_of_append afterInner ?_ ?_
      · rw [byteLength_append, byteLength_append, ← here, begins]
      · simp only [whole, byteLength_append]
        omega
    have later : max start drawn = start := by omega
    rw [Highlights.pieces, found, Highlights.errorPieces_append begins]
    simp [Highlights.slices?, later, lead, inner, rest]
  | @range drawn start before lexeme after kind ranges begins _ ih =>
    have lead : slice? source drawn start = some before := slice?_of_append whole here begins
    have afterLead : source = (front ++ before) ++ (lexeme ++ after) := by rw [whole, List.append_assoc]
    have inner : slice? source start (start + byteLength lexeme) = some lexeme := by
      refine slice?_of_append afterLead ?_ rfl
      rw [byteLength_append, ← here, begins]
    have behind : start + byteLength lexeme = byteLength (front ++ before ++ lexeme) := by
      rw [byteLength_append, byteLength_append, ← here, begins]
    have afterInner : source = (front ++ before ++ lexeme) ++ after := by simp [whole]
    have rest := ih afterInner behind
    rw [Highlights.pieces_append error kind ranges begins]
    simp [Highlights.slices?, lead, inner, rest, HighlightRange.style]

end Laid

namespace Stretch

variable {stretch : Stretch} {stretches : List Stretch}

end Stretch

end DataLexer
