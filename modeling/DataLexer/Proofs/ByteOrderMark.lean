import Mathlib.Data.List.Forall2
import DataLexer.Proofs.Relocation
import DataLexer.Proofs.Requests

namespace DataLexer

/-- The text of a byte order mark. -/
def byteOrderMark : List Char := ['\uFEFF']

/-- What was given, a token or an error, moved behind the text `front`. -/
def movedItem (front : List Char) : Except LexError Token → Except LexError Token
  | .ok token => .ok (token.moved front)
  | .error error => .error (error.moved front)

/-- The answer to a request, moved behind the text `front`, and the lexer behind it. -/
def movedAnswer (front : List Char) (answer : Option (Except LexError Token) × Lexer) :
    Option (Except LexError Token) × Lexer :=
  (answer.1.map (movedItem front), answer.2.onto front)

/-- Behind a byte order mark there stands what stands in the text `source`, with all offsets larger by
three. The requests may be of either kind, mixed in any way. -/
structure ShiftedByMark (source : String) : Prop where
  bytes : ∀ span : Span,
    span.moved byteOrderMark = ⟨span.start + 3, span.stop + 3, span.line, span.column⟩
  tokens : (tokenize ("\uFEFF" ++ source)).tokens =
    (tokenize source).tokens.map fun token => ⟨token.kind, token.text, token.span.moved byteOrderMark⟩
  error : (tokenize ("\uFEFF" ++ source)).error =
    (tokenize source).error.map (·.moved byteOrderMark)
  ranges : (highlight ("\uFEFF" ++ source)).ranges =
    (highlight source).ranges.map fun range => ⟨range.start + 3, range.stop + 3, range.kind⟩
  highlightError : (highlight ("\uFEFF" ++ source)).error =
    (highlight source).error.map (·.moved byteOrderMark)
  steps : ∀ requests, List.Forall₂
    (fun marked plain => marked.1 = plain.1.map (movedItem byteOrderMark) ∧
      marked.2.cursor.place = ⟨plain.2.cursor.place.offset + 3, plain.2.cursor.place.line,
        plain.2.cursor.place.column⟩ ∧
      marked.2.depth = plain.2.depth)
    ((Lexer.ofText ("\uFEFF" ++ source)).askAll requests) ((Lexer.ofText source).askAll requests)

namespace Lexer

variable {front : List Char} {lexer after : Lexer}

theorem Step.started_of_error {error : LexError} (step : Step lexer (.error error) after)
    (started : lexer.cursor.Started) : after.cursor.Started := by
  have settled := started_settled started
  cases step with
  | unclosed | unexpected => exact settled
  | unbalanced | unterminated => exact settled.advanceBy _

theorem started_next (started : lexer.cursor.Started) : lexer.next.2.cursor.Started := by
  match call : lexer.next with
  | (.ok token, after) => exact (step_of_next call).started started
  | (.error error, after) => exact (step_of_next call).started_of_error started

theorem started_ask (started : lexer.cursor.Started) (request : Request) :
    (lexer.ask request).2.cursor.Started := by
  have next := started_next started
  cases request with
  | token => exact next
  | item =>
    unfold ask next?
    dsimp only
    split
    · exact started
    · match call : lexer.next with
      | (.ok token, after) =>
        rw [call] at next
        exact next
      | (.error error, after) =>
        rw [call] at next
        exact next

/-- Behind a text a request is answered as it is without, moved. -/
theorem ask_onto (nonempty : front ≠ []) (started : lexer.cursor.Started) (request : Request) :
    (lexer.onto front).ask request = movedAnswer front (lexer.ask request) := by
  have moved := next_onto nonempty started
  have finished : (lexer.onto front).finished = lexer.finished := rfl
  match call : lexer.next with
  | (.error error, after) =>
    rw [call] at moved
    cases request with
    | token =>
      simp only [ask, moved, call]
      rfl
    | item =>
      simp only [ask, next?, moved, call, finished]
      split <;> rfl
  | (.ok token, after) =>
    rw [call] at moved
    have eof : (token.moved front).isEof = token.isEof := rfl
    cases request with
    | token =>
      simp only [ask, moved, call]
      rfl
    | item =>
      simp only [ask, next?, moved, movedCall, call, finished, eof]
      split
      · rfl
      · cases token.isEof <;> rfl

theorem askAll_onto (nonempty : front ≠ []) (started : lexer.cursor.Started)
    (requests : List Request) :
    (lexer.onto front).askAll requests = (lexer.askAll requests).map (movedAnswer front) := by
  induction requests generalizing lexer with
  | nil => rfl
  | cons request rest ih =>
    have first := ask_onto nonempty started request
    rw [askAll, askAll, first, List.map_cons]
    exact congrArg _ (ih (started_ask started request))

/-- The first request is answered as it is behind the byte order mark. -/
theorem askAll_atStart (text : String) (requests : List Request) :
    (atStart text).askAll requests = (ofText text).askAll requests := by
  cases requests with
  | nil => rfl
  | cons request rest =>
    have same : (atStart text).ask request = (ofText text).ask request := by
      have next := next_atStart text
      cases request with
      | token => simp only [ask, next]
      | item =>
        have running : (atStart text).finished = (ofText text).finished := rfl
        have fresh : (ofText text).finished = false := rfl
        simp [ask, next?, next, running, fresh]
    rw [askAll, askAll, same]

/-- Past its byte order mark a text starts as the text without it, moved. -/
theorem atStart_byteOrderMark (source : String) :
    atStart ("\uFEFF" ++ source) = (ofText source).onto byteOrderMark := by
  have whole : ("\uFEFF" ++ source).toList = '\uFEFF' :: source.toList := by simp
  have marked : (Cursor.ofText ('\uFEFF' :: source.toList)).atByteOrderMark = true := rfl
  unfold atStart
  rw [whole, Cursor.skipByteOrderMark, if_pos marked]
  rfl

theorem started_ofText {source : String} (unmarked : source.toList.head? ≠ some '\uFEFF') :
    (ofText source).cursor.Started :=
  ⟨rfl, fun _ => unmarked⟩

end Lexer

/-- A byte order mark changes nothing but offsets. -/
theorem tokenize_byteOrderMark {source : String} (unmarked : source.toList.head? ≠ some '\uFEFF') :
    ShiftedByMark source := by
  have nonempty : byteOrderMark ≠ [] := List.cons_ne_nil _ _
  have started := Lexer.started_ofText unmarked
  have stream : tokenize ("\uFEFF" ++ source) = (tokenize source).moved byteOrderMark := by
    rw [← Lexer.drain_atStart, Lexer.atStart_byteOrderMark, Lexer.drain_onto nonempty started]
    rfl
  constructor
  case bytes => exact fun span => rfl
  case tokens => exact congrArg TokenStream.tokens stream
  case error => exact congrArg TokenStream.error stream
  case ranges =>
    have kept (tokens : List Token) : (tokens.map (·.moved byteOrderMark)).filter (!·.isEof) =
        (tokens.filter (!·.isEof)).map (·.moved byteOrderMark) := List.filter_map
    have range (token : Token) : (token.moved byteOrderMark).range? =
        token.range?.map fun range => ⟨range.start + 3, range.stop + 3, range.kind⟩ := by
      unfold Token.range?
      have kind : (token.moved byteOrderMark).kind = token.kind := rfl
      rw [kind]
      split <;> rfl
    rw [highlight_eq, highlight_eq, stream]
    simp only [TokenStream.items, TokenStream.moved, kept, List.filterMap_map, List.map_filterMap,
      Function.comp_def, range]
  case highlightError =>
    rw [highlight_eq, highlight_eq, stream]
    rfl
  case steps =>
    intro requests
    rw [← Lexer.askAll_atStart, Lexer.atStart_byteOrderMark, Lexer.askAll_onto nonempty started,
      List.forall₂_map_left_iff, List.forall₂_same]
    intro answer _
    exact ⟨rfl, rfl, List.length_map _⟩

/-- A bracket that is never closed, behind a byte order mark. -/
theorem byteOrderMark_before_bracket :
    "[".toList.head? ≠ some '\uFEFF' ∧
      tokenize ("\uFEFF" ++ "[") = ⟨[⟨.arrayOpen, "[", ⟨3, 4, 1, 1⟩⟩],
        some (.unbalancedDelimiter none ⟨4, 4, 1, 2⟩ (some ⟨.array, ⟨3, 4, 1, 1⟩⟩))⟩ := by
  have unmarked : "[".toList.head? ≠ some '\uFEFF' := by decide
  have opens : (Lexer.ofText "[").next.1 = .ok ⟨.arrayOpen, "[", ⟨0, 1, 1, 1⟩⟩ := by decide
  have stops : (Lexer.ofText "[").next.2.next.1 =
      .error (.unbalancedDelimiter none ⟨1, 1, 1, 2⟩ (some ⟨.array, ⟨0, 1, 1, 1⟩⟩)) := by decide
  have plain : tokenize "[" = ⟨[⟨.arrayOpen, "[", ⟨0, 1, 1, 1⟩⟩],
      some (.unbalancedDelimiter none ⟨1, 1, 1, 2⟩ (some ⟨.array, ⟨0, 1, 1, 1⟩⟩))⟩ := by
    rw [tokenize, Lexer.drain_of_next opens, Lexer.drain_of_error (Prod.ext stops rfl)]
    rfl
  have shifted := tokenize_byteOrderMark unmarked
  have tokens := shifted.tokens
  have error := shifted.error
  rw [plain] at tokens error
  exact ⟨unmarked, (TokenStream.mk.injEq ..).mpr ⟨tokens, error⟩⟩

end DataLexer
