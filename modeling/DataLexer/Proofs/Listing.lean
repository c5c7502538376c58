import DataLexer.Listing

namespace DataLexer

theorem isDigit_of_mem_toString {n : Nat} {c : Char} (member : c ∈ (toString n).toList) :
    c.isDigit = true := by
  rw [Nat.toString_eq_repr, Nat.toList_repr] at member
  exact Nat.isDigit_of_mem_toDigits (by decide) (by decide) member

theorem feed_not_mem_toString (n : Nat) : '\n' ∉ (toString n).toList :=
  fun feed => absurd (isDigit_of_mem_toString feed) (by decide)

theorem feed_not_mem_place (span : Span) : '\n' ∉ span.place.toList := by
  have line := feed_not_mem_toString span.line
  have column := feed_not_mem_toString span.column
  have colon : '\n' ∉ (toString ":").toList := by decide
  unfold Span.place
  simp only [String.toList_append, List.mem_append]
  rintro ((feed | feed) | feed)
  · exact line feed
  · exact colon feed
  · exact column feed

theorem feed_not_mem_alignLeft (width : Nat) {text : String} (plain : '\n' ∉ text.toList) :
    '\n' ∉ (alignLeft width text).toList := by
  simp [alignLeft, spaces, repeated, plain, List.mem_replicate]

theorem feed_not_mem_name (kind : TokenKind) : '\n' ∉ kind.name.toList := by
  cases kind <;> decide

theorem feed_not_mem_escapeLexeme (text : String) : '\n' ∉ (escapeLexeme text).toList := by
  unfold escapeLexeme
  rw [String.toList_ofList, List.mem_flatMap]
  rintro ⟨c, _, feed⟩
  split at feed
  · exact absurd feed (by decide)
  · exact absurd feed (by decide)
  · exact absurd feed (by decide)
  · rename_i other _ _
    exact other (List.mem_singleton.mp feed).symm

theorem count_feed_row (token : Token) : token.row.toList.count '\n' = 1 := by
  have place := feed_not_mem_alignLeft 8 (feed_not_mem_place token.span)
  have name := feed_not_mem_alignLeft 13 (feed_not_mem_name token.kind)
  have lexeme := feed_not_mem_escapeLexeme token.text
  unfold Token.row
  simp only [String.toList_append, List.count_append, List.count_eq_zero.mpr place,
    List.count_eq_zero.mpr name, List.count_eq_zero.mpr lexeme]
  decide

theorem count_feed_listTokens (tokens : List Token) :
    (listTokens tokens).toList.count '\n' = tokens.length := by
  induction tokens with
  | nil => rfl
  | cons token tokens ih =>
    have first : listTokens (token :: tokens) = token.row ++ listTokens tokens := String.join_cons
    rw [first, String.toList_append, List.count_append, count_feed_row, ih, List.length_cons, Nat.add_comm]

end DataLexer
