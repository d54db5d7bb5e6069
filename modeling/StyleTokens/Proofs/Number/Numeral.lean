import Mathlib.Algebra.Order.Field.Power
import Mathlib.Data.Rat.Cast.Order
import Mathlib.Tactic.FieldSimp
import Mathlib.Tactic.Positivity
import Mathlib.Tactic.Ring
import StyleTokens.Proofs.Number.Decimal
import StyleTokens.Proofs.Number.StyleText

/-!
# Decimal numerals

A numeral is a text: perhaps a minus sign, digits, and perhaps a point with more digits behind it.
It denotes a rational number. Among the numerals of one number exactly one is plain: it has no
needless zero on either side, and zero has no sign. Plain notation without the zeros that end a
fraction is the plain numeral of a decimal's value.
-/

namespace StyleTokens

/-- Digits with perhaps a sign in front, and perhaps with a point among them that stands between two
of them. -/
@[ext] structure Numeral where
  /-- Whether a minus sign stands in front. -/
  negative : Bool
  /-- The digits in front of the point. -/
  whole : List Char
  /-- The digits behind the point; without any there is no point. -/
  fraction : List Char
  /-- A numeral begins with a digit. -/
  whole_ne_nil : whole ≠ []
  /-- There are only digits on both sides of the point. -/
  isDigit : ∀ c ∈ whole ++ fraction, c.isDigit = true

namespace Numeral

variable {m n : Numeral}

/-- The characters of a numeral behind its sign. -/
def unsigned (n : Numeral) : List Char :=
  n.whole ++ if n.fraction = [] then [] else '.' :: n.fraction

/-- The characters of a numeral. -/
def text (n : Numeral) : List Char := (if n.negative then ['-'] else []) ++ n.unsigned

/-- The number that a numeral denotes, but for its sign. -/
def magnitude (n : Numeral) : ℚ := ofDigits (n.whole ++ n.fraction) / 10 ^ n.fraction.length

/-- The number that a numeral denotes. -/
def value (n : Numeral) : ℚ := if n.negative then -n.magnitude else n.magnitude

/-- A numeral with nothing needless in it. -/
structure IsPlain (n : Numeral) : Prop where
  /-- Zero stands in front of the point only alone. -/
  whole : n.whole.head? = some '0' → n.whole = ['0']
  /-- Behind the point, zero does not stand last. -/
  fraction : n.fraction.getLast? ≠ some '0'
  /-- Zero has no sign. -/
  sign : n.value = 0 → n.negative = false

theorem isDigit_whole {c : Char} (h : c ∈ n.whole) : c.isDigit = true :=
  n.isDigit c (List.mem_append_left _ h)

theorem isDigit_fraction {c : Char} (h : c ∈ n.fraction) : c.isDigit = true :=
  n.isDigit c (List.mem_append_right _ h)

theorem magnitude_nonneg (n : Numeral) : 0 ≤ n.magnitude := by
  unfold magnitude
  positivity

@[simp] theorem abs_value (n : Numeral) : |n.value| = n.magnitude := by
  unfold value
  split_ifs
  · rw [abs_neg, abs_of_nonneg n.magnitude_nonneg]
  · rw [abs_of_nonneg n.magnitude_nonneg]

/-- A plain numeral has a sign exactly if it denotes a number below zero. -/
theorem IsPlain.negative_iff (h : n.IsPlain) : n.negative = true ↔ n.value < 0 := by
  have hmagnitude := n.magnitude_nonneg
  constructor
  · intro hnegative
    refine lt_of_le_of_ne ?_ fun hzero => ?_
    · rw [value, if_pos hnegative]
      exact neg_nonpos.mpr hmagnitude
    · rw [h.sign hzero] at hnegative
      cases hnegative
  · intro hvalue
    by_contra hpositive
    rw [value, if_neg hpositive] at hvalue
    exact absurd hvalue (not_lt.mpr hmagnitude)

/-- A numeral with a sign is one whose text begins with it. -/
theorem head_text (n : Numeral) : n.text.head? = some '-' ↔ n.negative = true := by
  obtain ⟨c, rest, hwhole⟩ := List.exists_cons_of_ne_nil n.whole_ne_nil
  have hc : c.isDigit = true := isDigit_whole (n := n) (by simp [hwhole])
  have hne : c ≠ '-' := by
    rintro rfl
    exact absurd hc (by decide)
  cases hnegative : n.negative <;> simp [text, unsigned, hnegative, hwhole, hne]

/-- The characters of a numeral are digits, the sign and the point. -/
theorem mem_text {c : Char} (h : c ∈ n.text) : c.isDigit = true ∨ c = '-' ∨ c = '.' := by
  rw [text, unsigned, List.mem_append, List.mem_append] at h
  rcases h with hsign | hwhole | hrest
  · split_ifs at hsign
    · exact .inr (.inl (List.mem_singleton.mp hsign))
    · cases hsign
  · exact .inl (isDigit_whole hwhole)
  · split_ifs at hrest
    · cases hrest
    · rcases List.mem_cons.mp hrest with rfl | hfraction
      · exact .inr (.inr rfl)
      · exact .inl (isDigit_fraction hfraction)

/-- Zero in one digit. -/
def zero : Numeral := ⟨false, ['0'], [], by decide, List.forall_mem_singleton.mpr rfl⟩

@[simp] theorem value_zero : zero.value = 0 := by
  simp [zero, value, magnitude, ofDigits, digitValue]

theorem isPlain_zero : zero.IsPlain := ⟨fun _ => rfl, by decide, fun _ => rfl⟩

/-- A digit is no point. -/
theorem ne_point {c : Char} (h : c.isDigit = true) : c ≠ '.' := by
  rintro rfl
  exact absurd h (by decide)

/-- The point of a numeral ends the digits in front of it. -/
theorem takeWhile_unsigned (n : Numeral) : n.unsigned.takeWhile (· != '.') = n.whole := by
  have hwhole : ∀ c ∈ n.whole, (c != '.') = true := fun c hc => by
    simpa using ne_point (isDigit_whole hc)
  unfold unsigned
  rw [List.takeWhile_append_of_pos hwhole]
  split_ifs <;> simp

/-- A text is that of one numeral at most. -/
theorem eq_of_text_eq (h : m.text = n.text) : m = n := by
  have hsign : m.negative = n.negative := by
    rw [Bool.eq_iff_iff, ← m.head_text, ← n.head_text, h]
  have hunsigned : m.unsigned = n.unsigned := by
    unfold text at h
    rw [hsign] at h
    exact List.append_cancel_left h
  have hwhole : m.whole = n.whole := by
    rw [← m.takeWhile_unsigned, ← n.takeWhile_unsigned, hunsigned]
  refine Numeral.ext hsign hwhole ?_
  unfold unsigned at hunsigned
  rw [hwhole] at hunsigned
  have hrest := List.append_cancel_left hunsigned
  split_ifs at hrest with hm hn hn
  · rw [hm, hn]
  · exact (List.cons.inj hrest).2

/-- Behind the point of a plain numeral, the digits are no multiple of ten. -/
theorem IsPlain.not_dvd (h : n.IsPlain) (hfraction : n.fraction ≠ []) :
    ¬10 ∣ ofDigits (n.whole ++ n.fraction) := by
  intro hdvd
  have hsplit := List.dropLast_concat_getLast hfraction
  generalize hlast : n.fraction.getLast hfraction = c at hsplit
  have hc : c.isDigit = true := isDigit_fraction (n := n) (by rw [← hlast]; exact List.getLast_mem _)
  rw [← hsplit, ← List.append_assoc, ofDigits_concat] at hdvd
  have hzero : digitValue c = 0 := by
    have hbelow := digitValue_lt c
    omega
  refine h.fraction ?_
  rw [List.getLast?_eq_some_getLast hfraction, hlast, ← digitChar_digitValue hc, hzero]
  rfl

/-- No plain numeral has fewer digits behind the point than another of the same magnitude. -/
theorem IsPlain.length_fraction_le (hn : n.IsPlain) (h : m.magnitude = n.magnitude) :
    n.fraction.length ≤ m.fraction.length := by
  by_contra hmore
  have hcross : ofDigits (m.whole ++ m.fraction) * 10 ^ n.fraction.length =
      ofDigits (n.whole ++ n.fraction) * 10 ^ m.fraction.length := by
    unfold magnitude at h
    rw [div_eq_div_iff (by positivity) (by positivity)] at h
    exact_mod_cast h
  obtain ⟨k, hk⟩ := Nat.exists_eq_add_of_lt (Nat.lt_of_not_le hmore)
  refine hn.not_dvd (List.length_pos_iff.mp (by omega))
    ⟨ofDigits (m.whole ++ m.fraction) * 10 ^ k, ?_⟩
  refine Nat.eq_of_mul_eq_mul_right (show 0 < 10 ^ m.fraction.length by positivity) ?_
  rw [← hcross, hk]
  ring

/-- The digits in front of the point are the whole part. -/
theorem ofDigits_whole (n : Numeral) :
    ofDigits (n.whole ++ n.fraction) / 10 ^ n.fraction.length = ofDigits n.whole := by
  have hbelow := ofDigits_lt n.fraction
  rw [ofDigits_append fun c => isDigit_fraction, Nat.mul_add_div (by positivity),
    Nat.div_eq_of_lt hbelow, Nat.add_zero]

/-- The digits behind the point are what is left. -/
theorem ofDigits_fraction (n : Numeral) :
    ofDigits (n.whole ++ n.fraction) % 10 ^ n.fraction.length = ofDigits n.fraction := by
  rw [ofDigits_append fun c => isDigit_fraction, Nat.mul_add_mod, Nat.mod_eq_of_lt (ofDigits_lt _)]

/-- There is one plain numeral for a number. -/
theorem IsPlain.eq_of_value_eq (hm : m.IsPlain) (hn : n.IsPlain) (h : m.value = n.value) :
    m = n := by
  have hmagnitude : m.magnitude = n.magnitude := by rw [← m.abs_value, h, n.abs_value]
  have hlength : m.fraction.length = n.fraction.length :=
    Nat.le_antisymm (hm.length_fraction_le hmagnitude.symm) (hn.length_fraction_le hmagnitude)
  have hdigits : ofDigits (m.whole ++ m.fraction) = ofDigits (n.whole ++ n.fraction) := by
    unfold magnitude at hmagnitude
    rw [hlength, div_left_inj' (by positivity)] at hmagnitude
    exact_mod_cast hmagnitude
  refine Numeral.ext ?_ ?_ ?_
  · rw [Bool.eq_iff_iff, hm.negative_iff, hn.negative_iff, h]
  · rw [← digits_ofDigits (fun c => m.isDigit_whole) m.whole_ne_nil hm.whole,
      ← digits_ofDigits (fun c => n.isDigit_whole) n.whole_ne_nil hn.whole, ← m.ofDigits_whole,
      ← n.ofDigits_whole, hdigits, hlength]
  · refine eq_of_ofDigits_eq (fun c => isDigit_fraction) (fun c => isDigit_fraction) hlength ?_
    rw [← m.ofDigits_fraction, ← n.ofDigits_fraction, hdigits, hlength]

/-- The digits behind the point without the zeros that end them. -/
def keptFraction (n : Numeral) : List Char := (n.fraction.reverse.dropWhile (· == '0')).reverse

theorem fraction_eq_append (n : Numeral) :
    n.fraction = n.keptFraction ++
      List.replicate (n.fraction.length - n.keptFraction.length) '0' :=
  Decimal.dropped_zeros n.fraction

theorem keptFraction_subset (n : Numeral) : n.keptFraction ⊆ n.fraction := by
  intro c hc
  rw [n.fraction_eq_append]
  exact List.mem_append_left _ hc

/-- A numeral without the zeros that end its fraction. -/
def withoutZeros (n : Numeral) : Numeral where
  negative := n.negative
  whole := n.whole
  fraction := n.keptFraction
  whole_ne_nil := n.whole_ne_nil
  isDigit := by
    intro c hc
    rcases List.mem_append.mp hc with hwhole | hfraction
    · exact isDigit_whole hwhole
    · exact isDigit_fraction (n.keptFraction_subset hfraction)

@[simp] theorem negative_withoutZeros (n : Numeral) : n.withoutZeros.negative = n.negative := rfl

@[simp] theorem whole_withoutZeros (n : Numeral) : n.withoutZeros.whole = n.whole := rfl

@[simp] theorem fraction_withoutZeros (n : Numeral) : n.withoutZeros.fraction = n.keptFraction := rfl

/-- Zeros at the end of a fraction do not count. -/
@[simp] theorem magnitude_withoutZeros (n : Numeral) : n.withoutZeros.magnitude = n.magnitude := by
  have hsplit := n.fraction_eq_append
  have hlength := congrArg List.length hsplit
  generalize n.fraction.length - n.keptFraction.length = k at *
  rw [List.length_append, List.length_replicate] at hlength
  unfold magnitude
  rw [hlength, hsplit, ← List.append_assoc, ofDigits_append_replicate, pow_add]
  simp only [whole_withoutZeros, fraction_withoutZeros]
  push_cast
  field_simp

/-- No point is dropped in front of digits. -/
private theorem dropWhile_point {ds : List Char} (h : ∀ c ∈ ds, c.isDigit = true) :
    ds.dropWhile (· == '.') = ds := by
  cases ds with
  | nil => rfl
  | cons c ds =>
    have hc : c ≠ '.' := ne_point (h c (by simp))
    simp [hc]

/-- Dropping the zeros of a fraction in the text drops them from the numeral. -/
theorem dropFractionZeros_unsigned (n : Numeral) :
    dropFractionZeros n.unsigned = n.withoutZeros.unsigned := by
  have hwhole : n.whole.reverse.dropWhile (· == '.') = n.whole.reverse :=
    dropWhile_point fun c hc => isDigit_whole (List.mem_reverse.mp hc)
  have hkept : n.fraction.reverse.dropWhile (· == '0') = n.keptFraction.reverse := by
    rw [keptFraction, List.reverse_reverse]
  unfold unsigned dropFractionZeros
  rw [whole_withoutZeros, fraction_withoutZeros]
  by_cases hfraction : n.fraction = []
  · have hpoint : '.' ∉ n.whole := fun hmem => ne_point (isDigit_whole hmem) rfl
    simp [hfraction, hpoint, keptFraction]
  · have hpoint : (n.whole ++ '.' :: n.fraction).contains '.' = true := by simp
    rw [if_neg hfraction, if_pos hpoint, List.reverse_append, List.reverse_cons, List.append_assoc,
      List.singleton_append, List.dropWhile_append, hkept]
    by_cases hempty : n.keptFraction = []
    · -- All zeros are dropped, and then the point.
      simp [hempty, hwhole]
    · have hdigits : n.keptFraction.reverse.dropWhile (· == '.') = n.keptFraction.reverse :=
        dropWhile_point fun c hc =>
          isDigit_fraction (n := n) (n.keptFraction_subset (List.mem_reverse.mp hc))
      simp [hempty, List.dropWhile_append, hdigits]

/-- Without needless zeros in front, a numeral becomes plain by dropping those at the end, unless it
is a zero with a sign. -/
theorem isPlain_withoutZeros (hwhole : n.whole.head? = some '0' → n.whole = ['0'])
    (hsign : n.magnitude = 0 → n.negative = false) : n.withoutZeros.IsPlain where
  whole := hwhole
  fraction := by
    rw [fraction_withoutZeros, keptFraction, List.getLast?_reverse]
    have hhead := List.head?_dropWhile_not (· == '0') n.fraction.reverse
    intro hzero
    simp [hzero] at hhead
  sign := by
    intro hzero
    rw [negative_withoutZeros]
    refine hsign ?_
    rw [← n.magnitude_withoutZeros, ← abs_value, hzero, abs_zero]

end Numeral

namespace Decimal

/-- The number that a decimal stands for. -/
def value (d : Decimal) : ℚ := d.coefficient * 10 ^ d.exponent

/-- The number that a decimal stands for is the ratio that it is computed as. -/
theorem num_div_den (d : Decimal) : (d.num : ℚ) / d.den = d.value := by
  rw [num_eq, den_eq, value]
  push_cast
  rcases Int.le_total 0 d.exponent with hnonneg | hnonpos
  · rw [show (-d.exponent).toNat = 0 by omega, pow_zero, div_one, ← zpow_natCast,
      Int.toNat_of_nonneg hnonneg]
  · rw [show d.exponent.toNat = 0 by omega, pow_zero, mul_one, div_eq_mul_inv, ← zpow_natCast,
      Int.toNat_of_nonneg (by omega), zpow_neg, inv_inv]

/-- Plain notation is that of a numeral of the same value, without needless zeros in front. -/
theorem exists_numeral_unsigned (negative : Bool) (d : Decimal) :
    ∃ n : Numeral, n.negative = negative ∧ n.unsigned = d.plain ∧ n.magnitude = d.value ∧
      (n.whole.head? = some '0' → n.whole = ['0']) := by
  obtain ⟨whole, fraction, hparts⟩ := d.exists_plainParts
  refine ⟨⟨negative, whole, fraction, hparts.whole_ne_nil, hparts.isDigit⟩, rfl, hparts.text.symm,
    ?_, hparts.leading⟩
  rw [← num_div_den, Numeral.magnitude, hparts.ofDigits_eq, hparts.length_eq, num_eq, den_eq,
    Nat.mul_comm]
  push_cast
  rfl

/-- Plain notation without the zeros that end a fraction is the plain numeral of a decimal other than
zero. -/
theorem exists_plain_numeral (negative : Bool) {d : Decimal} (h : 0 < d.coefficient) :
    ∃ n : Numeral, n.IsPlain ∧ n.negative = negative ∧ n.magnitude = d.value ∧
      n.text = (if negative then ['-'] else []) ++ dropFractionZeros d.plain := by
  obtain ⟨n, hsign, hunsigned, hmagnitude, hwhole⟩ := d.exists_numeral_unsigned negative
  have hvalue : d.value ≠ 0 := by
    have hpos : (0 : ℚ) < d.coefficient := by exact_mod_cast h
    unfold value
    positivity
  refine ⟨n.withoutZeros, Numeral.isPlain_withoutZeros hwhole fun hzero => ?_, hsign,
    n.magnitude_withoutZeros.trans hmagnitude, ?_⟩
  · exact absurd (hmagnitude.symm.trans hzero) hvalue
  · rw [Numeral.text, ← n.dropFractionZeros_unsigned, hunsigned, n.negative_withoutZeros, hsign]

end Decimal

namespace Numeral

/-- The digits of a numeral as one number, and the power of ten of the last one. -/
def decimal (n : Numeral) : Decimal := ⟨ofDigits (n.whole ++ n.fraction), -n.fraction.length⟩

@[simp] theorem value_decimal (n : Numeral) : n.decimal.value = n.magnitude := by
  rw [Decimal.value, decimal, magnitude, zpow_neg, zpow_natCast, div_eq_mul_inv]

theorem coefficient_decimal_eq_zero (n : Numeral) (h : n.magnitude = 0) :
    n.decimal.coefficient = 0 := by
  rw [magnitude, div_eq_zero_iff, Nat.cast_eq_zero] at h
  exact h.resolve_right (by positivity)

/-- The numeral of a whole number. -/
def ofInt (n : ℤ) : Numeral where
  negative := decide (n < 0)
  whole := digits n.natAbs
  fraction := []
  whole_ne_nil := digits_ne_nil _
  isDigit := fun c hc => isDigit_of_mem_digits (by rwa [List.append_nil] at hc)

theorem text_ofInt (n : ℤ) : (ofInt n).text = intDigits n := by
  cases n with
  | ofNat n => simp [ofInt, text, unsigned, intDigits]
  | negSucc n => simp [ofInt, text, unsigned, intDigits]

@[simp] theorem value_ofInt (n : ℤ) : (ofInt n).value = n := by
  have hmagnitude : (ofInt n).magnitude = |(n : ℚ)| := by
    simp [ofInt, magnitude]
  have hsign : (ofInt n).negative = decide (n < 0) := rfl
  rw [value, hmagnitude, hsign]
  by_cases hneg : n < 0
  · rw [if_pos (decide_eq_true hneg), abs_of_neg (by exact_mod_cast hneg), neg_neg]
  · rw [if_neg (by simpa using hneg), abs_of_nonneg (by exact_mod_cast not_lt.mp hneg)]

theorem isPlain_ofInt (n : ℤ) : (ofInt n).IsPlain where
  whole := by
    intro hzero
    rcases Nat.eq_zero_or_pos n.natAbs with hn | hpos
    · change digits n.natAbs = ['0']
      rw [hn]
      rfl
    · exact absurd hzero (head_digits_ne_zero hpos)
  fraction := by simp [ofInt]
  sign := by
    intro hzero
    rw [value_ofInt, Int.cast_eq_zero] at hzero
    rw [hzero]
    rfl

end Numeral

end StyleTokens
