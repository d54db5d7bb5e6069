import Mathlib.Algebra.GroupWithZero.Nat
import Mathlib.Tactic.IntervalCases
import StyleTokens.Text.Hex

/-!
# Hexadecimal digits are read back

Hexadecimal digits of a fixed width denote the number that they were made from, as far as it fits
into that width.
-/

namespace StyleTokens.Text

@[simp] theorem length_hexDigits (width n : Nat) : (hexDigits width n).length = width := by
  induction width generalizing n with
  | zero => rfl
  | succ width ih => rw [hexDigits, List.length_append, ih, List.length_singleton]

/-- A digit stands for its value. -/
theorem hexValue?_hexDigit {n : Nat} (h : n < 16) : hexValue? (hexDigit n) = some n := by
  interval_cases n <;> decide

/-- A digit is one byte. -/
theorem utf8Size_hexDigit {n : Nat} (h : n < 16) : (hexDigit n).utf8Size = 1 := by
  interval_cases n <;> decide

/-- A text of characters that are one byte each has as many bytes as characters. -/
theorem utf8ByteSize_ofList {chars : List Char} (h : ∀ c ∈ chars, c.utf8Size = 1) :
    (String.ofList chars).utf8ByteSize = chars.length := by
  induction chars with
  | nil => rfl
  | cons c rest ih =>
    rw [List.forall_mem_cons] at h
    rw [String.ofList_cons, String.utf8ByteSize_append, String.utf8ByteSize_singleton, h.1,
      ih h.2, List.length_cons, Nat.add_comm]

/-- What stands in a numeral is the digit of a number below sixteen. -/
theorem exists_of_mem_hexDigits {width n : Nat} {c : Char} (h : c ∈ hexDigits width n) :
    ∃ digit, digit < 16 ∧ c = hexDigit digit := by
  induction width generalizing n with
  | zero => simp [hexDigits] at h
  | succ width ih =>
    rw [hexDigits, List.mem_append, List.mem_singleton] at h
    rcases h with h | rfl
    · exact ih h
    · exact ⟨n % 16, Nat.mod_lt n (by decide), rfl⟩

/-- Digits continue a number that has been read before them. -/
theorem foldlM_hexDigits (width n before : Nat) :
    (hexDigits width n).foldlM (fun n c => (hexValue? c).map (16 * n + ·)) before =
      some (16 ^ width * before + n % 16 ^ width) := by
  induction width generalizing n with
  | zero => simp [hexDigits, Nat.mod_one]
  | succ width ih =>
    have hdigit := hexValue?_hexDigit (Nat.mod_lt n (show 0 < 16 by decide))
    have hsplit : n % 16 ^ (width + 1) = 16 * (n / 16 % 16 ^ width) + n % 16 := by
      rw [Nat.pow_succ, Nat.mul_comm (16 ^ width), Nat.mod_mul, Nat.add_comm]
    have hpower : 16 ^ (width + 1) * before = 16 * (16 ^ width * before) := by
      rw [Nat.pow_succ]
      ac_rfl
    rw [hexDigits, List.foldlM_append, ih, hsplit, hpower]
    simp [hdigit]
    omega

/-- A number that fits into its digits is read back. -/
theorem ofHexDigits?_hexDigits {width n : Nat} (h : n < 16 ^ width) :
    ofHexDigits? (hexDigits width n) = some n := by
  rw [ofHexDigits?, foldlM_hexDigits, Nat.mul_zero, Nat.zero_add, Nat.mod_eq_of_lt h]

end StyleTokens.Text
