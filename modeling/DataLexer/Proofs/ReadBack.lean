import Mathlib.Data.List.Forall2
import DataLexer.Proofs.Lines
import DataLexer.Proofs.Listing

namespace DataLexer

/-- What the row of a token shows: its place, its kind and its lexeme, written in one line. -/
structure TokenRow where
  line : Nat
  column : Nat
  kind : TokenKind
  lexeme : List Char
deriving DecidableEq

/-- The number that a text begins with, and what follows it. -/
def readNumber (text : List Char) : Nat × List Char :=
  (Nat.ofDigitChars 10 (text.takeWhile Char.isDigit) 0, text.dropWhile Char.isDigit)

/-- Reads a row without its line feed. A place may outgrow its field, the name of a kind does not, so the
lexeme stands behind 13 characters for the name and a space. -/
def TokenRow.read? (row : List Char) : Option TokenRow := do
  let (line, behindLine) := readNumber row
  let (column, behindColumn) := readNumber behindLine.tail
  let field := behindColumn.dropWhile (· = ' ')
  let kind ← TokenKind.ofName? (String.ofList (field.takeWhile (· ≠ ' ')))
  return ⟨line, column, kind, field.drop 14⟩

/-- Reads the rows of a listing, each ended by a line feed. -/
def readListing? (listing : String) : Option (List TokenRow) :=
  (splitLines listing.toList).dropLast.mapM TokenRow.read?

namespace Token

def shown (token : Token) : TokenRow :=
  ⟨token.span.line, token.span.column, token.kind, (escapeLexeme token.text).toList⟩

/-- The row of a token without its line feed. -/
def rowText (token : Token) : List Char :=
  (alignLeft 8 token.span.place).toList ++
    ' ' :: ((alignLeft 13 token.kind.name).toList ++ ' ' :: (escapeLexeme token.text).toList)

/-- The tokens look the same in a listing. -/
structure ShownAlike (token other : Token) : Prop where
  line : token.span.line = other.span.line
  column : token.span.column = other.span.column
  kind : token.kind = other.kind
  lexeme : escapeLexeme token.text = escapeLexeme other.text

end Token

/-- A listing has one row for each token, ended by its only line feed, and tells what the rows show. -/
structure ListingLaw (tokens : List Token) : Prop where
  rows : ∃ rows, (listTokens tokens).toList = endLines rows ∧ rows.length = tokens.length ∧
    ∀ row ∈ rows, '\n' ∉ row
  readBack : readListing? (listTokens tokens) = some (tokens.map (·.shown))
  tells : ∀ others, listTokens tokens = listTokens others ↔ List.Forall₂ Token.ShownAlike tokens others

theorem toList_alignLeft (width : Nat) (text : String) :
    (alignLeft width text).toList = text.toList ++ List.replicate (width - text.length) ' ' := by
  simp [alignLeft, spaces, repeated]

theorem toList_place (span : Span) : span.place.toList =
    Nat.toDigits 10 span.line ++ ':' :: Nat.toDigits 10 span.column := by
  have colon : (toString ":").toList = [':'] := by decide
  unfold Span.place
  simp only [String.toList_append, Nat.toString_eq_repr, Nat.toList_repr, colon, List.append_assoc,
    List.singleton_append]

/-- A number is read back when no digit follows it. -/
theorem readNumber_toDigits (n : Nat) {rest : List Char}
    (ends : ∀ c, rest.head? = some c → c.isDigit = false) :
    readNumber (Nat.toDigits 10 n ++ rest) = (n, rest) := by
  have digits : ∀ d ∈ Nat.toDigits 10 n, d.isDigit = true :=
    fun d member => Nat.isDigit_of_mem_toDigits (by decide) (by decide) member
  unfold readNumber
  rw [List.takeWhile_append_of_pos digits, List.dropWhile_append_of_pos digits]
  cases rest with
  | nil => simp
  | cons c rest => simp [ends c rfl]

namespace TokenKind

theorem ofName?_name (kind : TokenKind) : ofName? kind.name = some kind := by
  cases kind <;> decide

theorem length_name_le (kind : TokenKind) : kind.name.length ≤ 13 := by
  cases kind <;> decide

theorem space_not_mem_name (kind : TokenKind) : ' ' ∉ kind.name.toList := by
  cases kind <;> decide

theorem name_ne_empty (kind : TokenKind) : kind.name.toList ≠ [] := by
  cases kind <;> decide

end TokenKind

section Field

variable (kind : TokenKind) (lexeme : List Char)

/-- The name of a kind ends at the first space, which its field or the space behind it gives. -/
theorem takeWhile_field :
    ((alignLeft 13 kind.name).toList ++ ' ' :: lexeme).takeWhile (· ≠ ' ') = kind.name.toList := by
  have plain : ∀ c ∈ kind.name.toList, decide (c ≠ ' ') = true := by
    intro c member
    exact decide_eq_true (ne_of_mem_of_not_mem member kind.space_not_mem_name)
  rw [toList_alignLeft, List.append_assoc, List.takeWhile_append_of_pos plain]
  cases 13 - kind.name.length <;> simp [List.replicate_succ]

theorem drop_field : ((alignLeft 13 kind.name).toList ++ ' ' :: lexeme).drop 14 = lexeme := by
  have width : (alignLeft 13 kind.name).toList.length = 13 := by
    have bound := kind.length_name_le
    rw [toList_alignLeft, List.length_append, List.length_replicate, String.length_toList]
    omega
  rw [List.drop_append, List.drop_of_length_le (by omega), width]
  rfl

theorem dropWhile_field (n : Nat) :
    (List.replicate n ' ' ++ ' ' :: ((alignLeft 13 kind.name).toList ++ ' ' :: lexeme)).dropWhile
      (· = ' ') = (alignLeft 13 kind.name).toList ++ ' ' :: lexeme := by
  obtain ⟨c, rest, name⟩ := List.exists_cons_of_ne_nil kind.name_ne_empty
  have solid : c ≠ ' ' := by
    rintro rfl
    exact kind.space_not_mem_name (name ▸ List.mem_cons_self)
  have blank : ∀ d ∈ List.replicate n ' ' ++ [' '], decide (d = ' ') = true := by
    intro d member
    rcases List.mem_append.mp member with padding | last
    · exact decide_eq_true (List.mem_replicate.mp padding).2
    · exact decide_eq_true (List.mem_singleton.mp last)
  rw [List.append_cons, List.dropWhile_append_of_pos blank, toList_alignLeft, name]
  simp [solid]

end Field

theorem read?_rowText (token : Token) : TokenRow.read? token.rowText = some token.shown := by
  have behindLine : ∀ rest c, (':' :: rest).head? = some c → c.isDigit = false := by
    rintro rest _ ⟨⟩
    decide
  have behindColumn : ∀ n rest c, (List.replicate n ' ' ++ ' ' :: rest).head? = some c →
      c.isDigit = false := by
    intro n rest c first
    cases n <;> cases first <;> decide
  unfold TokenRow.read? Token.rowText
  rw [toList_alignLeft 8, toList_place]
  simp only [List.append_assoc, List.cons_append, readNumber_toDigits _ (behindLine _), List.tail_cons,
    readNumber_toDigits _ (behindColumn _ _), dropWhile_field, takeWhile_field, drop_field,
    String.ofList_toList, TokenKind.ofName?_name]
  rfl

theorem toList_row (token : Token) : token.row.toList = token.rowText ++ ['\n'] := by
  have space : (" " : String).toList = [' '] := by decide
  have feed : ("\n" : String).toList = ['\n'] := by decide
  unfold Token.row Token.rowText
  simp only [String.toList_append, space, feed, List.append_assoc, List.cons_append, List.nil_append]

theorem feed_not_mem_rowText (token : Token) : '\n' ∉ token.rowText := by
  have count := count_feed_row token
  rw [toList_row, List.count_append, List.count_singleton_self] at count
  exact List.count_eq_zero.mp (by omega)

theorem toList_listTokens (tokens : List Token) :
    (listTokens tokens).toList = endLines (tokens.map (·.rowText)) := by
  unfold listTokens endLines
  rw [String.toList_join, List.flatMap_map, List.flatMap_map]
  simp only [toList_row]

theorem readListing?_listTokens (tokens : List Token) :
    readListing? (listTokens tokens) = some (tokens.map (·.shown)) := by
  have plain : ∀ row ∈ tokens.map (·.rowText), '\n' ∉ row :=
    List.forall_mem_map.mpr fun token _ => feed_not_mem_rowText token
  have split := splitLines_endLines plain []
  rw [List.append_nil] at split
  have last : splitLines [] = [[]] := rfl
  have each : TokenRow.read? ∘ Token.rowText = pure ∘ Token.shown := funext read?_rowText
  unfold readListing?
  rw [toList_listTokens, split, last, List.dropLast_concat, List.mapM_map, each]
  exact List.mapM_pure

theorem shown_eq_iff {token other : Token} : token.shown = other.shown ↔ token.ShownAlike other := by
  unfold Token.shown
  rw [TokenRow.mk.injEq, String.toList_inj]
  constructor
  · rintro ⟨line, column, kind, lexeme⟩
    exact ⟨line, column, kind, lexeme⟩
  · rintro ⟨line, column, kind, lexeme⟩
    exact ⟨line, column, kind, lexeme⟩

theorem Token.ShownAlike.row_eq {token other : Token} (alike : token.ShownAlike other) :
    token.row = other.row := by
  unfold Token.row Span.place
  rw [alike.line, alike.column, alike.kind, alike.lexeme]

theorem map_eq_map_iff_forall₂ {α β : Type} {f : α → β} {as bs : List α} :
    as.map f = bs.map f ↔ List.Forall₂ (fun a b => f a = f b) as bs := by
  rw [← List.forall₂_eq_eq_eq, List.forall₂_map_left_iff, List.forall₂_map_right_iff]

/-- Every listing tells, row by row, all that it shows of its tokens. -/
theorem listTokens_law (tokens : List Token) : ListingLaw tokens where
  rows := by
    refine ⟨tokens.map (·.rowText), toList_listTokens tokens, List.length_map _, ?_⟩
    exact List.forall_mem_map.mpr fun token _ => feed_not_mem_rowText token
  readBack := readListing?_listTokens tokens
  tells := by
    intro others
    constructor
    · intro same
      have read := readListing?_listTokens tokens
      rw [same, readListing?_listTokens others] at read
      have shown := map_eq_map_iff_forall₂.mp (Option.some.inj read).symm
      exact shown.imp fun _ _ => shown_eq_iff.mp
    · intro alike
      have rows := map_eq_map_iff_forall₂.mpr (alike.imp fun _ _ same => same.row_eq)
      exact congrArg String.join rows

end DataLexer
