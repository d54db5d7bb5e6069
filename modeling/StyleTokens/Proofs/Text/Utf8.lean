import Mathlib.Tactic.SplitIfs
import StyleTokens.Text.Utf8

/-!
# UTF-8 is read back

Strict decoding gives back every text that was encoded: the bytes of a character are read as that
character, whatever follows them, and they are passed over before the next one is read.
-/

namespace StyleTokens.Text

/-- The bytes of an array from a position on, behind those that were collected before. -/
theorem toList_loop (bytes : ByteArray) (position : Nat) (before : List UInt8) :
    ByteArray.toList.loop bytes position before =
      before.reverse ++ bytes.data.toList.drop position := by
  fun_induction ByteArray.toList.loop bytes position before with
  | case1 position before hlt ih =>
    have hposition : position < bytes.data.toList.length := by simpa using hlt
    have hget : bytes.get! position = bytes.data.toList[position] := by
      rw [Array.getElem_toList]
      exact getElem!_pos bytes.data position (by simpa using hlt)
    rw [ih, List.drop_eq_getElem_cons hposition, hget]
    simp
  | case2 position before hge =>
    have hposition : bytes.data.toList.length ≤ position := by simpa using hge
    rw [List.drop_eq_nil_of_le hposition, List.append_nil]

/-- A text is encoded character by character. -/
theorem encodeUtf8_eq_flatMap (text : String) :
    encodeUtf8 text = text.toList.flatMap String.utf8EncodeChar := by
  rw [encodeUtf8, ByteArray.toList, toList_loop, String.toUTF8_eq_toByteArray,
    ← String.utf8Encode_toList, List.utf8Encode]
  simp

/-- The bytes of a character, as numbers. -/
def sequence (c : Char) : List Nat := (String.utf8EncodeChar c).map UInt8.toNat

theorem map_encodeUtf8 (text : String) :
    (encodeUtf8 text).map UInt8.toNat = text.toList.flatMap sequence := by
  rw [encodeUtf8_eq_flatMap, List.map_flatMap]
  rfl

/-- The code point of a character is none of a surrogate. -/
theorem toNat_valid (c : Char) : c.toNat < 0xD800 ∨ 0xDFFF < c.toNat ∧ c.toNat < 0x110000 := c.valid

section Sequences

variable {first b c d : Nat}

/-- The second byte of a sequence is one that its first byte allows. -/
def InBounds (first b : Nat) : Prop := (secondBounds first).1 ≤ b ∧ b ≤ (secondBounds first).2

theorem decodeOne_two (hlength : sequenceLength? first = some 2) (hb : InBounds first b)
    (rest : List Nat) :
    decodeOne first (b :: rest) = .ok ((first - 0xC0) * 64 + (b - 0x80), 2) := by
  unfold decodeOne
  rw [hlength]
  simp [hb.1, hb.2]

theorem decodeOne_three (hlength : sequenceLength? first = some 3) (hb : InBounds first b)
    (hc : isTail c = true) (rest : List Nat) :
    decodeOne first (b :: c :: rest) =
      .ok ((first - 0xE0) * 4096 + (b - 0x80) * 64 + (c - 0x80), 3) := by
  unfold decodeOne
  rw [hlength]
  simp [hb.1, hb.2, hc]

theorem decodeOne_four (hlength : sequenceLength? first = some 4) (hb : InBounds first b)
    (hc : isTail c = true) (hd : isTail d = true) (rest : List Nat) :
    decodeOne first (b :: c :: d :: rest) =
      .ok ((first - 0xF0) * 262144 + (b - 0x80) * 4096 + (c - 0x80) * 64 + (d - 0x80), 4) := by
  unfold decodeOne
  rw [hlength]
  simp [hb.1, hb.2, hc, hd]

end Sequences

section Codes

variable {code : Nat}

theorem isTail_add {n : Nat} (hn : n < 64) : isTail (n + 128) = true := by
  simp [isTail]
  omega

/-- A code point of two bytes is read from them. -/
theorem decodeOne_two_of_code (hlow : 0x80 ≤ code) (hhigh : code < 0x800) (rest : List Nat) :
    decodeOne (code / 64 + 192) ((code % 64 + 128) :: rest) = .ok (code, 2) := by
  have hlength : sequenceLength? (code / 64 + 192) = some 2 := by
    unfold sequenceLength?
    rw [if_neg (by omega), if_pos (by omega)]
  have hbounds : InBounds (code / 64 + 192) (code % 64 + 128) := by
    unfold InBounds secondBounds
    split_ifs <;> omega
  refine (decodeOne_two hlength hbounds rest).trans ?_
  simp
  omega

/-- A code point of three bytes is read from them, if it is none of a surrogate. -/
theorem decodeOne_three_of_code (hlow : 0x800 ≤ code) (hhigh : code < 0x10000)
    (hvalid : code < 0xD800 ∨ 0xDFFF < code) (rest : List Nat) :
    decodeOne (code / 4096 + 224) ((code / 64 % 64 + 128) :: (code % 64 + 128) :: rest) =
      .ok (code, 3) := by
  have hlength : sequenceLength? (code / 4096 + 224) = some 3 := by
    unfold sequenceLength?
    rw [if_neg (by omega), if_neg (by omega), if_pos (by omega)]
  -- The bounds keep surrogates out, and so does the code point.
  have hbounds : InBounds (code / 4096 + 224) (code / 64 % 64 + 128) := by
    unfold InBounds secondBounds
    split_ifs <;> omega
  refine (decodeOne_three hlength hbounds (isTail_add (by omega)) rest).trans ?_
  simp
  omega

/-- A code point of four bytes is read from them. -/
theorem decodeOne_four_of_code (hlow : 0x10000 ≤ code) (hhigh : code < 0x110000)
    (rest : List Nat) :
    decodeOne (code / 262144 + 240) ((code / 4096 % 64 + 128) :: (code / 64 % 64 + 128) ::
      (code % 64 + 128) :: rest) = .ok (code, 4) := by
  have hlength : sequenceLength? (code / 262144 + 240) = some 4 := by
    unfold sequenceLength?
    rw [if_neg (by omega), if_neg (by omega), if_neg (by omega), if_pos (by omega)]
  have hbounds : InBounds (code / 262144 + 240) (code / 4096 % 64 + 128) := by
    unfold InBounds secondBounds
    split_ifs <;> omega
  refine (decodeOne_four hlength hbounds (isTail_add (by omega)) (isTail_add (by omega))
    rest).trans ?_
  simp
  omega

end Codes

/-- The bytes of a character are read as the character, whatever follows. -/
theorem exists_sequence (c : Char) :
    ∃ first tail, sequence c = first :: tail ∧
      ∀ rest, decodeOne first (tail ++ rest) = .ok (c.toNat, tail.length + 1) := by
  have hvalid := toNat_valid c
  have hcode : c.val.toNat = c.toNat := rfl
  unfold sequence String.utf8EncodeChar
  rw [hcode]
  generalize c.toNat = code at hvalid ⊢
  dsimp only
  split_ifs with hone htwo hthree
  · refine ⟨code, [], ?_, fun rest => ?_⟩
    · simp
      omega
    · unfold decodeOne sequenceLength?
      rw [if_pos (by omega)]
      rfl
  · refine ⟨code / 64 + 192, [code % 64 + 128], ?_, fun rest => ?_⟩
    · simp
      omega
    · exact decodeOne_two_of_code (by omega) (by omega) rest
  · refine ⟨code / 4096 + 224, [code / 64 % 64 + 128, code % 64 + 128], ?_, fun rest => ?_⟩
    · simp
      omega
    · exact decodeOne_three_of_code (by omega) (by omega) (by omega) rest
  · refine ⟨code / 262144 + 240, [code / 4096 % 64 + 128, code / 64 % 64 + 128, code % 64 + 128],
      ?_, fun rest => ?_⟩
    · simp
      omega
    · exact decodeOne_four_of_code (by omega) (by omega) rest

/-- Bytes that are still to pass are passed over. -/
theorem decodeUtf8From_length (tail rest : List Nat) (position : Nat) :
    decodeUtf8From position tail.length (tail ++ rest) =
      decodeUtf8From (position + tail.length) 0 rest := by
  induction tail generalizing position with
  | nil => rfl
  | cons b tail ih =>
    rw [List.length_cons, List.cons_append, decodeUtf8From, ih]
    congr 1
    omega

/-- The bytes of characters are read as these characters. -/
theorem decodeUtf8From_flatMap (text : List Char) (position : Nat) :
    decodeUtf8From position 0 (text.flatMap sequence) = .ok text := by
  induction text generalizing position with
  | nil => rfl
  | cons c text ih =>
    obtain ⟨first, tail, hsequence, hdecode⟩ := exists_sequence c
    rw [List.flatMap_cons, hsequence, List.cons_append, decodeUtf8From, hdecode]
    simp only [Nat.add_sub_cancel, decodeUtf8From_length, ih, Except.map, Char.ofNat_toNat]

/-- A text that was encoded is decoded. -/
theorem decodeUtf8_encodeUtf8 (text : String) : decodeUtf8 (encodeUtf8 text) = .ok text := by
  rw [decodeUtf8, map_encodeUtf8, decodeUtf8From_flatMap, Except.map, String.ofList_toList]

end StyleTokens.Text
