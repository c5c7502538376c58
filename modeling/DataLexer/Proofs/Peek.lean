import DataLexer.Proofs.Place

namespace DataLexer

theorem encode_cons (c : Char) (text : List Char) :
    encode (c :: text) = String.utf8EncodeChar c ++ encode text := List.flatMap_cons

theorem encode_append (before after : List Char) :
    encode (before ++ after) = encode before ++ encode after := List.flatMap_append

theorem length_encode (text : List Char) : (encode text).length = byteLength text := by
  induction text with
  | nil => rfl
  | cons c text ih => rw [encode_cons, List.length_append, String.length_utf8EncodeChar, ih, byteLength]

theorem length_le_byteLength (text : List Char) : text.length ≤ byteLength text := by
  induction text with
  | nil => exact Nat.le_refl 0
  | cons c text ih =>
    have wide := c.utf8Size_pos
    simp only [List.length_cons, byteLength]
    omega

/-- The bytes behind those of a first part are the bytes of the rest. -/
theorem drop_encode (before after : List Char) :
    (encode (before ++ after)).drop (byteLength before) = encode after := by
  rw [encode_append, ← length_encode]
  exact List.drop_left

/-- No more than `n` characters are needed for the first `n` bytes. -/
theorem take_encode_take (text : List Char) (n : Nat) :
    (encode (text.take n)).take n = (encode text).take n := by
  by_cases long : n ≤ text.length
  · have enough : n ≤ (encode (text.take n)).length := by
      have bytes := length_le_byteLength (text.take n)
      rw [List.length_take_of_le long] at bytes
      rwa [length_encode]
    have parts := encode_append (text.take n) (text.drop n)
    rw [List.take_append_drop] at parts
    rw [parts, List.take_append_of_le_length enough]
  · rw [List.take_of_length_le (by omega : text.length ≤ n)]

/-- The first `n` bytes are there and ASCII. -/
def StartsAscii (bytes : List UInt8) (n : Nat) : Prop :=
  n ≤ bytes.length ∧ ∀ byte ∈ bytes.take n, byte < 0x80

instance (bytes : List UInt8) (n : Nat) : Decidable (StartsAscii bytes n) :=
  inferInstanceAs (Decidable (_ ∧ _))

theorem utf8EncodeChar_of_ascii {c : Char} (ascii : c.toNat < 0x80) :
    String.utf8EncodeChar c = [UInt8.ofNat c.toNat] := by
  have small : c.val.toNat ≤ 0x7f := Nat.le_of_lt_succ ascii
  unfold String.utf8EncodeChar
  exact if_pos small

theorem ofNat_toNat_of_ascii {c : Char} (ascii : c.toNat < 0x80) :
    Char.ofNat (UInt8.ofNat c.toNat).toNat = c := by
  have same : (UInt8.ofNat c.toNat).toNat = c.toNat := Nat.mod_eq_of_lt (by omega : c.toNat < 2 ^ 8)
  rw [same, Char.ofNat_toNat]

/-- The first byte of a character is ASCII when the character is. -/
theorem head_ascii_iff {c : Char} {byte : UInt8} {rest : List UInt8}
    (bytes : String.utf8EncodeChar c = byte :: rest) : byte < 0x80 ↔ c.toNat < 0x80 := by
  have value : c.toNat = c.val.toNat := rfl
  have ascii : byte < 0x80 ↔ byte.toNat < 128 := UInt8.lt_iff_toNat_lt
  rw [ascii]
  -- the first byte of a longer code is above the ASCII bytes
  unfold String.utf8EncodeChar at bytes
  dsimp only at bytes
  repeat' split at bytes
  all_goals
    obtain ⟨rfl, _⟩ := List.cons.inj bytes
    rw [UInt8.toNat_ofNat']
    omega

/-- The first bytes are ASCII exactly when as many first characters are. -/
theorem ascii_take_iff (text : List Char) (n : Nat) :
    (∀ byte ∈ (encode text).take n, byte < 0x80) ↔ ∀ c ∈ text.take n, c.toNat < 0x80 := by
  induction text generalizing n with
  | nil => simp [encode]
  | cons c text ih =>
    cases n with
    | zero => simp
    | succ n =>
      obtain ⟨byte, more, bytes⟩ := List.exists_cons_of_ne_nil (String.utf8EncodeChar_ne_nil (c := c))
      have first := head_ascii_iff bytes
      rw [List.take_succ_cons, List.forall_mem_cons, ← first, encode_cons]
      by_cases ascii : c.toNat < 0x80
      · rw [utf8EncodeChar_of_ascii ascii] at bytes ⊢
        obtain ⟨rfl, _⟩ := List.cons.inj bytes
        rw [List.singleton_append, List.take_succ_cons, List.forall_mem_cons, ih]
      · rw [bytes, List.cons_append, List.take_succ_cons, List.forall_mem_cons]
        simp only [first, ascii, false_and]

/-- ASCII bytes at the start of a text are its first characters, one byte each. -/
theorem take_of_ascii {text : List Char} {n : Nat}
    (ascii : ∀ byte ∈ (encode text).take n, byte < 0x80) :
    text.take n = ((encode text).take n).map (Char.ofNat ·.toNat) := by
  rw [ascii_take_iff] at ascii
  induction text generalizing n with
  | nil => simp [encode]
  | cons c text ih =>
    cases n with
    | zero => rfl
    | succ n =>
      rw [List.take_succ_cons, List.forall_mem_cons] at ascii
      rw [encode_cons, utf8EncodeChar_of_ascii ascii.1, List.singleton_append, List.take_succ_cons,
        List.take_succ_cons, List.map_cons, ofNat_toNat_of_ascii ascii.1, ih ascii.2]

/-- The first bytes of a text are there and ASCII exactly when as many first characters are. -/
theorem startsAscii_iff (text : List Char) (n : Nat) :
    StartsAscii (encode text) n ↔ n ≤ text.length ∧ ∀ c ∈ text.take n, c.toNat < 0x80 := by
  constructor
  · rintro ⟨enough, ascii⟩
    have lengths := congrArg List.length (take_of_ascii ascii)
    rw [List.length_map, List.length_take, List.length_take_of_le enough] at lengths
    exact ⟨by omega, (ascii_take_iff text n).mp ascii⟩
  · rintro ⟨enough, ascii⟩
    have bytes := length_le_byteLength text
    rw [← length_encode] at bytes
    exact ⟨Nat.le_trans enough bytes, (ascii_take_iff text n).mpr ascii⟩

/-- Where the first `n` bytes of a text are not all ASCII, one of its first `n` characters takes several. -/
theorem exists_wide {text : List Char} {n : Nat} (enough : n ≤ (encode text).length)
    (mixed : ¬ StartsAscii (encode text) n) : ∃ c ∈ text.take n, 1 < c.utf8Size := by
  have unlike : ¬ ∀ c ∈ text.take n, c.toNat < 0x80 := fun ascii =>
    mixed ⟨enough, (ascii_take_iff text n).mpr ascii⟩
  obtain ⟨c, inside, above⟩ : ∃ c ∈ text.take n, 0x80 ≤ c.toNat := by simpa using unlike
  have several : c.utf8Size ≠ 1 := by
    rw [Ne, Char.utf8Size_eq_one_iff, UInt32.le_iff_toNat_le]
    exact Nat.not_le_of_lt above
  have positive := c.utf8Size_pos
  exact ⟨c, inside, by omega⟩

/-- The byte in place `n` is the character in place `n` when all bytes up to it are ASCII. -/
theorem getElem?_of_ascii {text : List Char} {n : Nat} (ascii : StartsAscii (encode text) (n + 1)) :
    text[n]? = (encode text)[n]?.map (Char.ofNat ·.toNat) := by
  have same := congrArg (·[n]?) (take_of_ascii ascii.2)
  simpa using same

namespace Cursor

/-- The look ahead by the bytes of all that is ahead. -/
theorem peek_bytes (cursor : Cursor) (n : Nat) : cursor.peek n =
    if StartsAscii (encode cursor.ahead) (n + 1) then Char.ofNat ((encode cursor.ahead).getD n 0).toNat
    else cursor.ahead.getD n '\x00' := by
  have there (bytes : List UInt8) : min (n + 1) bytes.length = n + 1 ↔ n + 1 ≤ bytes.length := by omega
  unfold peek
  simp [take_encode_take, StartsAscii, there]

/-- The look ahead finds the character that is `n` places ahead, NUL past the end. -/
theorem peek_eq (cursor : Cursor) (n : Nat) : cursor.peek n = cursor.ahead.getD n '\x00' := by
  rw [peek_bytes]
  split
  next ascii =>
    rw [List.getD_eq_getElem?_getD, List.getD_eq_getElem?_getD, getElem?_of_ascii ascii,
      List.getElem?_eq_getElem ascii.1]
    rfl
  next => rfl

-- the byte in place 1 is the second one of the first character
example : (ofText ['é', ':']).peek 1 = ':' := by decide

end Cursor

end DataLexer
