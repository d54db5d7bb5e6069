import Mathlib.Tactic.SplitIfs
import StyleTokens.Json.Parser
import StyleTokens.Json.Printer
import StyleTokens.Proofs.Text.Hex

/-!
# Strings of a document are read back

Every character of a string is written as itself or as an escape, and what is written for it is read
as that character, whatever follows. A character beyond the first 65536 code points is written as
two escapes, which are read as one.
-/

namespace StyleTokens.Json

/-- A character is no half of a pair. -/
theorem not_surrogate (c : Char) : ¬(0xD800 ≤ c.toNat ∧ c.toNat ≤ 0xDFFF) := by
  have hvalid : c.toNat < 0xD800 ∨ 0xDFFF < c.toNat ∧ c.toNat < 0x110000 := c.valid
  omega

/-- A code unit is read back from its escape. -/
theorem readUnit_hexDigits {unit : Nat} (h : unit < 0x10000) (rest : List Char) :
    readUnit (Text.hexDigits 4 unit ++ rest) = some (unit, rest) := by
  have hread := Text.ofHexDigits?_hexDigits (show unit < 16 ^ 4 from h)
  simp only [Text.hexDigits, List.nil_append, List.cons_append] at hread ⊢
  simp [readUnit, hread]

/-- A character of one code unit is read back from its escape. -/
theorem readEscape_unit {c : Char} (h : c.toNat < 0x10000) (rest : List Char) :
    readEscape ('u' :: (Text.hexDigits 4 c.toNat ++ rest)) = some (c, rest) := by
  have hnone := not_surrogate c
  have hhigh : isHighSurrogate c.toNat = false := by
    simp only [isHighSurrogate, Bool.and_eq_false_iff, decide_eq_false_iff_not]
    omega
  have hchar : unitChar c.toNat = c := by rw [unitChar, if_neg hnone, Char.ofNat_toNat]
  simp [readEscape, readUnit_hexDigits h, hhigh, hchar]

/-- A character of two code units is read back from their escapes. -/
theorem readEscape_pair {c : Char} (h : 0x10000 ≤ c.toNat) (rest : List Char) :
    readEscape ('u' :: (Text.hexDigits 4 (0xD800 + (c.toNat - 0x10000) / 0x400) ++
      '\\' :: 'u' :: (Text.hexDigits 4 (0xDC00 + (c.toNat - 0x10000) % 0x400) ++ rest))) =
        some (c, rest) := by
  have hvalid : c.toNat < 0xD800 ∨ 0xDFFF < c.toNat ∧ c.toNat < 0x110000 := c.valid
  obtain ⟨high, hhigh⟩ : ∃ high, high = 0xD800 + (c.toNat - 0x10000) / 0x400 := ⟨_, rfl⟩
  obtain ⟨low, hlow⟩ : ∃ low, low = 0xDC00 + (c.toNat - 0x10000) % 0x400 := ⟨_, rfl⟩
  have hfirst : isHighSurrogate high = true := by
    simp only [isHighSurrogate, Bool.and_eq_true, decide_eq_true_eq]
    omega
  have hsecond : isLowSurrogate low = true := by
    simp only [isLowSurrogate, Bool.and_eq_true, decide_eq_true_eq]
    omega
  have hchar : pairChar high low = c := by
    rw [pairChar, show 0x10000 + (high - 0xD800) * 0x400 + (low - 0xDC00) = c.toNat by omega,
      Char.ofNat_toNat]
  have hreadHigh := readUnit_hexDigits (show high < 0x10000 by omega)
    ('\\' :: 'u' :: (Text.hexDigits 4 low ++ rest))
  have hreadLow := readUnit_hexDigits (show low < 0x10000 by omega) rest
  rw [← hhigh, ← hlow]
  simp [readEscape, hreadHigh, hreadLow, hfirst, hsecond, hchar]

/-- An escape in a string is one character of it. -/
theorem readString_escape {steps : Nat} {c : Char} {text after : List Char}
    (h : readEscape text = some (c, after)) :
    readString (steps + 1) ('\\' :: text) =
      (readString steps after).map fun (more, rest) => (c :: more, rest) := by
  rw [readString, if_neg (by decide), if_pos rfl, h]

/-- What is written for a character is read as that character. -/
theorem readString_stringChar (ascii : Bool) (c : Char) (steps : Nat) (after : List Char) :
    readString (steps + 1) (stringChar ascii c ++ after) =
      (readString steps after).map fun (more, rest) => (c :: more, rest) := by
  unfold stringChar
  split_ifs with hquote hback hline hreturn htab hfeed hbackspace hcontrol hascii
  · exact readString_escape (by rw [hquote]; rfl)
  · exact readString_escape (by rw [hback]; rfl)
  · exact readString_escape (by rw [hline]; rfl)
  · exact readString_escape (by rw [hreturn]; rfl)
  · exact readString_escape (by rw [htab]; rfl)
  · exact readString_escape (by rw [hfeed]; rfl)
  · exact readString_escape (by rw [hbackspace]; rfl)
  · exact readString_escape (readEscape_unit (by omega) after)
  · unfold escapedChar
    split_ifs with hsmall
    · exact readString_escape (readEscape_unit hsmall after)
    · rw [List.append_assoc]
      exact readString_escape (readEscape_pair (Nat.le_of_not_lt hsmall) after)
  · rw [List.singleton_append, readString, if_neg hquote, if_neg hback, if_neg hcontrol]

/-- The rest of a string in quotes is read back. -/
theorem readString_flatMap (ascii : Bool) (text rest : List Char) {steps : Nat}
    (h : text.length < steps) :
    readString steps (text.flatMap (stringChar ascii) ++ '"' :: rest) = .ok (text, rest) := by
  induction text generalizing steps with
  | nil =>
    obtain ⟨more, rfl⟩ : ∃ more, steps = more + 1 := ⟨steps - 1, by omega⟩
    rw [List.flatMap_nil, List.nil_append, readString, if_pos rfl]
  | cons c text ih =>
    obtain ⟨more, rfl⟩ : ∃ more, steps = more + 1 := ⟨steps - 1, by omega⟩
    have hmore : text.length < more := by
      rw [List.length_cons] at h
      omega
    rw [List.flatMap_cons, List.append_assoc, readString_stringChar, ih hmore]
    rfl

/-- A character is written as something, for it is read from what is written. -/
theorem stringChar_ne_nil (ascii : Bool) (c : Char) : stringChar ascii c ≠ [] := by
  intro hnil
  have hread := readString_stringChar ascii c 0 ['"']
  rw [hnil] at hread
  cases hread

/-- A string is at least as long as the text in it. -/
theorem length_le_flatMap_stringChar (ascii : Bool) (text : List Char) :
    text.length ≤ (text.flatMap (stringChar ascii)).length := by
  induction text with
  | nil => simp
  | cons c text ih =>
    have hone := List.length_pos_iff.mpr (stringChar_ne_nil ascii c)
    rw [List.flatMap_cons, List.length_append, List.length_cons]
    omega

/-- A string is read back with as many steps as there are characters. -/
theorem readString_stringText (ascii : Bool) (text rest : List Char) :
    readString (text.flatMap (stringChar ascii) ++ '"' :: rest).length.succ
      (text.flatMap (stringChar ascii) ++ '"' :: rest) = .ok (text, rest) := by
  have hlength := length_le_flatMap_stringChar ascii text
  refine readString_flatMap ascii text rest ?_
  rw [List.length_append]
  omega

end StyleTokens.Json
