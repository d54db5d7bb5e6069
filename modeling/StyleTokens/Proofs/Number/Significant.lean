import Mathlib.Algebra.Order.Round
import Mathlib.Data.Int.Log
import Mathlib.Data.Rat.Floor
import Mathlib.Tactic.Linarith
import StyleTokens.Number.Rounded
import StyleTokens.Proofs.Number.Numeral

/-!
# Fourteen significant digits

The text of a double denotes the multiple of a power of ten that is nearest to its exact value, a
tie going away from zero. The power is that of the fourteenth digit of the value, so it is a unit of
the last digit that the text keeps, unless rounding carries into a new decade.
-/

namespace StyleTokens

/-- The multiple of a step that is nearest to a number; of two that are equally near it is the one
farther from zero. -/
structure IsNearestMultiple (step exact rounded : ℚ) : Prop where
  /-- It is a multiple of the step. -/
  multiple : ∃ n : ℤ, rounded = n * step
  /-- No multiple is nearer. -/
  nearest : ∀ n : ℤ, |exact - rounded| ≤ |exact - n * step|
  /-- No multiple that is as near is farther from zero. -/
  farther : ∀ n : ℤ, |exact - n * step| = |exact - rounded| → |n * step| ≤ |rounded|

namespace IsNearestMultiple

variable {step exact rounded : ℚ}

/-- Numbers on either side of zero are rounded alike. -/
theorem neg (h : IsNearestMultiple step exact rounded) :
    IsNearestMultiple step (-exact) (-rounded) := by
  have hdistance (a b : ℚ) : |(-a) - (-b)| = |a - b| := by
    rw [neg_sub_neg, abs_sub_comm]
  have hmultiple (n : ℤ) : (n : ℚ) * step = -((-n : ℤ) * step) := by
    push_cast
    ring
  constructor
  · obtain ⟨n, hn⟩ := h.multiple
    exact ⟨-n, by rw [hn, hmultiple, neg_neg]⟩
  · intro n
    rw [hdistance, hmultiple, hdistance]
    exact h.nearest _
  · intro n hn
    rw [hdistance, hmultiple, hdistance] at hn
    rw [abs_neg, hmultiple, abs_neg]
    exact h.farther _ hn

/-- Two multiples that are less than a step apart are one. -/
theorem multiple_eq_of_abs_sub_lt {m n : ℤ} (hstep : 0 < step)
    (h : |m * step - n * step| < step) : m = n := by
  have hapart : |((m - n : ℤ) : ℚ)| * step < 1 * step :=
    calc |((m - n : ℤ) : ℚ)| * step = |m * step - n * step| := by
          rw [← abs_of_pos hstep, ← abs_mul, abs_of_pos hstep, Int.cast_sub, sub_mul]
      _ < 1 * step := by rwa [one_mul]
  have hsame : |m - n| < 1 := by exact_mod_cast lt_of_mul_lt_mul_right hapart hstep.le
  rwa [Int.abs_lt_one_iff, sub_eq_zero] at hsame

/-- A multiple that is nearer than half a step is what a number is rounded to. -/
theorem eq_of_near (h : IsNearestMultiple step exact rounded) (n : ℤ)
    (hnear : |exact - n * step| < step / 2) : rounded = n * step := by
  obtain ⟨m, rfl⟩ := h.multiple
  have hm := h.nearest n
  have hstep : 0 < step := by
    have := abs_nonneg (exact - n * step)
    linarith
  have hapart : |m * step - n * step| < step :=
    calc |m * step - n * step| = |(exact - n * step) - (exact - m * step)| := by ring_nf
      _ ≤ |exact - n * step| + |exact - m * step| := abs_sub _ _
      _ < step := by linarith
  rw [multiple_eq_of_abs_sub_lt hstep hapart]

/-- The distance to a multiple, counted in steps. -/
private theorem abs_sub_mul (hstep : 0 < step) (n : ℤ) :
    |exact - n * step| = |exact / step - n| * step := by
  rw [← abs_of_pos hstep, ← abs_mul, abs_of_pos hstep]
  congr 1
  field_simp

/-- A number is at most half a step away from what it is rounded to. -/
theorem abs_sub_le_half (h : IsNearestMultiple step exact rounded) (hstep : 0 < step) :
    |exact - rounded| ≤ step / 2 :=
  calc |exact - rounded| ≤ |exact - round (exact / step) * step| := h.nearest _
    _ = |exact / step - round (exact / step)| * step := abs_sub_mul hstep _
    _ ≤ 1 / 2 * step := mul_le_mul_of_nonneg_right (abs_sub_round _) hstep.le
    _ = step / 2 := one_div_mul_eq_div 2 step

/-- There is one number only that a number other than zero is rounded to. -/
theorem unique {other : ℚ} (h : IsNearestMultiple step exact rounded)
    (hother : IsNearestMultiple step exact other) (hne : exact ≠ 0) : other = rounded := by
  obtain ⟨m, hm⟩ := h.multiple
  obtain ⟨n, hn⟩ := hother.multiple
  have hdistance : |exact - other| = |exact - rounded| :=
    le_antisymm (by rw [hm]; exact hother.nearest m) (by rw [hn]; exact h.nearest n)
  have hsize : |other| = |rounded| := by
    refine le_antisymm ?_ ?_
    · rw [hn] at hdistance ⊢
      exact h.farther n hdistance
    · rw [hm] at hdistance ⊢
      exact hother.farther m hdistance.symm
  rcases abs_eq_abs.mp hsize with hsame | hopposite
  · exact hsame
  · -- Numbers on either side of zero are equally near only to zero.
    rw [hopposite, sub_neg_eq_add, ← sq_eq_sq_iff_abs_eq_abs] at hdistance
    have hproduct : exact * rounded = 0 := by linarith
    rw [hopposite, (mul_eq_zero.mp hproduct).resolve_left hne, neg_zero]

/-- A number that is not negative, rounded half up by the step. -/
theorem of_round (hstep : 0 < step) (hexact : 0 ≤ exact) :
    IsNearestMultiple step exact (round (exact / step) * step) where
  multiple := ⟨round (exact / step), rfl⟩
  nearest := by
    intro n
    rw [abs_sub_mul hstep, abs_sub_mul hstep]
    exact mul_le_mul_of_nonneg_right (round_le _ n) hstep.le
  farther := by
    intro n hn
    rw [abs_sub_mul hstep, abs_sub_mul hstep, mul_left_inj' hstep.ne'] at hn
    have hsteps : 0 ≤ exact / step := div_nonneg hexact hstep.le
    generalize exact / step = x at *
    have hhalf := abs_sub_round x
    have habove := sub_half_lt_round x
    have hround : -1 < round x := by
      have : (-1 : ℚ) < round x := by linarith
      exact_mod_cast this
    obtain ⟨hlow, hhigh⟩ := abs_le.mp (hn.trans_le hhalf)
    have hle : n < round x + 1 := by
      have : (n : ℚ) < round x + 1 := by linarith
      exact_mod_cast this
    have hnonneg : -1 < n := by
      have : (-1 : ℚ) < n := by linarith
      exact_mod_cast this
    have hsize : |n| ≤ |round x| := by
      rw [abs_of_nonneg (by omega), abs_of_nonneg (by omega)]
      omega
    rw [abs_mul, abs_mul]
    exact mul_le_mul_of_nonneg_right (by exact_mod_cast hsize) (abs_nonneg step)

end IsNearestMultiple

/-- Rounding half up a ratio of whole numbers. -/
theorem roundHalfUp_eq_round (num : ℕ) {den : ℕ} (hden : 0 < den) :
    (roundHalfUp num den : ℤ) = round (num / den : ℚ) := by
  have hden' : (den : ℚ) ≠ 0 := by exact_mod_cast hden.ne'
  have hhalf : (num / den + 1 / 2 : ℚ) = (2 * num + den : ℕ) / (2 * den : ℕ) := by
    push_cast
    field_simp
  rw [round_eq, hhalf, Rat.floor_natCast_div_natCast]
  rfl

/-- The decade of a number is told by the powers of ten around it. -/
theorem eq_log_of_bounds {q : ℚ} {k : ℤ} (hlow : (10 : ℚ) ^ k ≤ q) (hhigh : q < 10 ^ (k + 1)) :
    k = Int.log 10 q := by
  have hpos : 0 < q := lt_of_lt_of_le (by positivity) hlow
  have hle := (Int.zpow_le_iff_le_log (b := 10) (by decide) hpos).mp (by exact_mod_cast hlow)
  have hlt := (Int.lt_zpow_iff_log_lt (b := 10) (by decide) hpos).mp (by exact_mod_cast hhigh)
  omega

/-- The decade of a ratio is its logarithm. -/
theorem decade_eq_log {num den : ℕ} (hnum : 0 < num) (hden : 0 < den) :
    decade num den = Int.log 10 (num / den : ℚ) := by
  have hnum' : (0 : ℚ) < num := by exact_mod_cast hnum
  have hden' : (0 : ℚ) < den := by exact_mod_cast hden
  unfold decade
  split_ifs with hle
  · have hcount := digitCount_pos (num / den)
    have hfirst : 10 ^ (digitCount (num / den) - 1) ≤ num / den :=
      ten_pow_le_of_pos (Nat.div_pos hle hden)
    have hlast : num / den < 10 ^ digitCount (num / den) :=
      (digitCount_le_iff hcount).mp (Nat.le_refl _)
    generalize digitCount (num / den) = count at *
    apply eq_log_of_bounds
    · rw [show (count : ℤ) - 1 = (count - 1 : ℕ) by omega, zpow_natCast, le_div_iff₀ hden']
      exact_mod_cast (Nat.le_div_iff_mul_le hden).mp hfirst
    · rw [sub_add_cancel, zpow_natCast, div_lt_iff₀ hden']
      exact_mod_cast (Nat.div_lt_iff_lt_mul hden).mp hlast
  · have hone : 0 < (den - 1) / num := Nat.div_pos (by omega) hnum
    have hcount := digitCount_pos ((den - 1) / num)
    have hfirst : 10 ^ (digitCount ((den - 1) / num) - 1) ≤ (den - 1) / num :=
      ten_pow_le_of_pos hone
    have hlast : (den - 1) / num < 10 ^ digitCount ((den - 1) / num) :=
      (digitCount_le_iff hcount).mp (Nat.le_refl _)
    generalize digitCount ((den - 1) / num) = count at *
    have hbelow := (Nat.le_div_iff_mul_le hnum).mp hfirst
    have habove := (Nat.div_lt_iff_lt_mul hnum).mp hlast
    apply eq_log_of_bounds
    · rw [zpow_neg, zpow_natCast, inv_eq_one_div, div_le_div_iff₀ (by positivity) hden', one_mul,
        mul_comm]
      exact_mod_cast (show den ≤ 10 ^ count * num by omega)
    · rw [show -(count : ℤ) + 1 = -(count - 1 : ℕ) by omega, zpow_neg, zpow_natCast,
        inv_eq_one_div, div_lt_div_iff₀ hden' (by positivity), one_mul, mul_comm]
      exact_mod_cast (show 10 ^ (count - 1) * num < den by omega)

/-- The digits that are kept of a ratio, and the power of ten of the last one. -/
theorem significantDecimal_eq {num den : ℕ} (hnum : 0 < num) (hden : 0 < den) :
    (significantDecimal num den).exponent = Int.log 10 (num / den : ℚ) - 13 ∧
      ((significantDecimal num den).coefficient : ℤ) =
        round ((num / den : ℚ) / 10 ^ (Int.log 10 (num / den : ℚ) - 13)) := by
  rw [← decade_eq_log hnum hden]
  unfold significantDecimal
  dsimp only
  rw [show ((significantDigits - 1 : ℕ) : ℤ) = 13 from rfl]
  generalize decade num den - 13 = exponent
  have hunit := (Decimal.mk 1 exponent).num_div_den
  have hpos : 0 < (Decimal.mk 1 exponent).num := by
    rw [Decimal.num_eq, Nat.one_mul]
    positivity
  have hratio : (num / den : ℚ) / 10 ^ exponent =
      (num * (Decimal.mk 1 exponent).den : ℕ) / (den * (Decimal.mk 1 exponent).num : ℕ) := by
    have hden' : ((Decimal.mk 1 exponent).den : ℚ) ≠ 0 := by
      exact_mod_cast (Decimal.den_pos _).ne'
    rw [Decimal.value, Nat.cast_one, one_mul] at hunit
    rw [← hunit]
    push_cast
    field_simp
  refine ⟨rfl, ?_⟩
  rw [hratio]
  exact roundHalfUp_eq_round _ (Nat.mul_pos hden hpos)

/-- A ratio is rounded to the nearest multiple of the power of ten of its fourteenth digit. -/
theorem isNearestMultiple_significantDecimal {num den : ℕ} (hnum : 0 < num) (hden : 0 < den) :
    IsNearestMultiple (10 ^ (Int.log 10 (num / den : ℚ) - 13)) (num / den)
      (significantDecimal num den).value := by
  obtain ⟨hexponent, hcoefficient⟩ := significantDecimal_eq hnum hden
  have hround : ((significantDecimal num den).coefficient : ℚ) =
      round ((num / den : ℚ) / 10 ^ (Int.log 10 (num / den : ℚ) - 13)) := by
    exact_mod_cast hcoefficient
  rw [Decimal.value, hexponent, hround]
  exact IsNearestMultiple.of_round (by positivity) (by positivity)

/-- Of fourteen significant digits the first is not zero. -/
theorem coefficient_significantDecimal_pos {num den : ℕ} (hnum : 0 < num) (hden : 0 < den) :
    0 < (significantDecimal num den).coefficient := by
  have hcoefficient := (significantDecimal_eq hnum hden).2
  have hratio : (0 : ℚ) < num / den := by
    have : (0 : ℚ) < num := by exact_mod_cast hnum
    positivity
  have hlow := Int.zpow_log_le_self (b := 10) (by decide) hratio
  generalize (num / den : ℚ) = q at *
  have hone : 1 ≤ q / 10 ^ (Int.log 10 q - 13) := by
    rw [one_le_div (by positivity)]
    calc (10 : ℚ) ^ (Int.log 10 q - 13) ≤ 10 ^ Int.log 10 q :=
          zpow_le_zpow_right₀ (by norm_num) (by omega)
      _ ≤ q := by exact_mod_cast hlow
  have hround := sub_half_lt_round (q / 10 ^ (Int.log 10 q - 13))
  rw [← hcoefficient] at hround
  have : (0 : ℚ) < (significantDecimal num den).coefficient := by
    push_cast at hround
    linarith
  exact_mod_cast this

/-- The text of a magnitude other than zero is a plain numeral of the rounded value. -/
theorem exists_plain_significantText (negative : Bool) {units : ℕ} (h : units ≠ 0) :
    ∃ n : Numeral, n.IsPlain ∧ n.negative = negative ∧ significantText negative units = n.text ∧
      IsNearestMultiple (10 ^ (Int.log 10 (units / Binary64.unitsPerOne : ℚ) - 13))
        (units / Binary64.unitsPerOne) n.magnitude := by
  have hunits : 0 < units := Nat.pos_of_ne_zero h
  obtain ⟨n, hplain, hsign, hmagnitude, htext⟩ := Decimal.exists_plain_numeral negative
    (coefficient_significantDecimal_pos hunits Binary64.unitsPerOne_pos)
  refine ⟨n, hplain, hsign, ?_, ?_⟩
  · rw [significantText, if_neg h, htext]
  · rw [hmagnitude]
    exact isNearestMultiple_significantDecimal hunits Binary64.unitsPerOne_pos

namespace Binary64

/-- The exact value of a finite double. -/
def toRat? (x : Binary64) : Option ℚ :=
  x.toUnits?.map fun units : ℤ => (units : ℚ) / unitsPerOne

theorem toRat?_finite (negative : Bool) {units : ℕ} (h : Representable units) :
    (finite negative units h).toRat? =
      some (if negative then -(units / unitsPerOne : ℚ) else units / unitsPerOne) := by
  cases negative with
  | false =>
    rw [toRat?, toUnits?, Option.map_some, Int.cast_natCast, if_neg Bool.false_ne_true]
  | true =>
    rw [toRat?, toUnits?, Option.map_some, Int.cast_neg, Int.cast_natCast, neg_div, if_pos rfl]

end Binary64

namespace Number

/-- A finite double is written as the plain numeral of its value with fourteen significant digits,
and both zeros as `0`. -/
theorem significantText?_nearest {x : Binary64} {q : ℚ} (h : x.toRat? = some q) :
    (q = 0 → (Number.float x).significantText? = .ok ['0']) ∧
      (q ≠ 0 → ∃ n : Numeral, (Number.float x).significantText? = .ok n.text ∧ n.IsPlain ∧
        (n.text.head? = some '-' ↔ q < 0) ∧
        IsNearestMultiple (10 ^ (Int.log 10 |q| - 13)) q n.value) := by
  cases x with
  | nan => cases h
  | infinite negative => cases h
  | finite negative units hunits =>
    rw [Binary64.toRat?_finite, Option.some.injEq] at h
    have hone : (0 : ℚ) < Binary64.unitsPerOne := Nat.cast_pos.mpr Binary64.unitsPerOne_pos
    rcases Nat.eq_zero_or_pos units with hzero | hpos
    · have hq : q = 0 := by
        rw [← h, hzero, Nat.cast_zero, zero_div, neg_zero, ite_self]
      refine ⟨fun _ => ?_, fun hne => absurd hq hne⟩
      rw [significantText?, significantText, if_pos hzero]
    · have hmagnitude : (0 : ℚ) < units / Binary64.unitsPerOne :=
        div_pos (Nat.cast_pos.mpr hpos) hone
      obtain ⟨n, hplain, hsign, htext, hnearest⟩ :=
        exists_plain_significantText negative (Nat.ne_of_gt hpos)
      generalize (units / Binary64.unitsPerOne : ℚ) = exact at *
      have hsize : |q| = exact := by
        rw [← h]
        split_ifs
        · rw [abs_neg, abs_of_pos hmagnitude]
        · exact abs_of_pos hmagnitude
      refine ⟨fun hzero => ?_, fun _ => ⟨n, congrArg Except.ok htext, hplain, ?_, ?_⟩⟩
      · rw [hzero, abs_zero] at hsize
        exact absurd hsize hmagnitude.ne
      · rw [n.head_text, hsign, ← h]
        cases negative
        · simpa using hmagnitude.le
        · simpa using hmagnitude
      · rw [hsize, ← h, Numeral.value, hsign]
        split_ifs
        · exact hnearest.neg
        · exact hnearest

/-- A tie in the fourteenth digit of a number below zero, which carries through all of them. -/
theorem significantText?_nearest_tie :
    ∃ n : Numeral,
      (float (.finite true _ (Binary64.representable_natCast
        (n := 999999999999995) (by decide)))).significantText? = .ok n.text ∧ n.IsPlain ∧
      (n.text.head? = some '-' ↔ (-999999999999995 : ℚ) < 0) ∧
      IsNearestMultiple (10 ^ (Int.log 10 |(-999999999999995 : ℚ)| - 13)) (-999999999999995)
        n.value := by
  have hvalue : (Binary64.finite true _ (Binary64.representable_natCast
      (n := 999999999999995) (by decide))).toRat? = some (-999999999999995) := by
    have hone : (Binary64.unitsPerOne : ℚ) ≠ 0 := Nat.cast_ne_zero.mpr Binary64.unitsPerOne_pos.ne'
    rw [Binary64.toRat?_finite, if_pos rfl, Nat.cast_mul, mul_div_cancel_right₀ _ hone]
    norm_num
  exact (significantText?_nearest hvalue).2 (by norm_num)

example : significantText true (999999999999995 * Binary64.unitsPerOne) =
    "-1000000000000000".toList := by
  decide +kernel

end Number

end StyleTokens
