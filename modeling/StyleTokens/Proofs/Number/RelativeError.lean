import Mathlib.Data.Nat.Cast.Order.Field
import StyleTokens.Proofs.Number.Range
import StyleTokens.Proofs.Number.Significant

/-!
# Relative errors

Reading a decimal as a double and multiplying doubles are off by at most one part in `2 ^ 53` each,
as long as the result is neither so small that a double has fewer binary digits for it nor too large
for one. Few such errors do not show in fourteen significant digits: a number that has no more digits
is found again.
-/

namespace StyleTokens

/-- A number stands for another one up to some part of it. -/
def IsWithin (part exact approximate : ℚ) : Prop := |approximate - exact| ≤ part * exact

namespace IsWithin

variable {part more a b x y : ℚ}

theorem le_add (h : IsWithin part a x) : x ≤ a + part * a := by
  have := (abs_le.mp h).2
  linarith

theorem sub_le (h : IsWithin part a x) : a - part * a ≤ x := by
  have := (abs_le.mp h).1
  linarith

theorem mono (h : IsWithin part a x) (ha : 0 ≤ a) (hle : part ≤ more) : IsWithin more a x :=
  le_trans h (mul_le_mul_of_nonneg_right hle ha)

/-- Errors of two steps, one after the other. -/
theorem trans (h : IsWithin part a x) (hmore : IsWithin more x y) (hnonneg : 0 ≤ more) :
    IsWithin (part + more + part * more) a y :=
  calc |y - a| = |(y - x) + (x - a)| := by ring_nf
    _ ≤ |y - x| + |x - a| := abs_add_le _ _
    _ ≤ more * x + part * a := add_le_add hmore h
    _ ≤ more * (a + part * a) + part * a := by
        gcongr
        exact h.le_add
    _ = (part + more + part * more) * a := by ring

/-- Errors of the two factors of a product. -/
theorem mul (h : IsWithin part a x) (hmore : IsWithin more b y) (ha : 0 ≤ a) (hb : 0 ≤ b)
    (hnonneg : 0 ≤ part) : IsWithin (part + more + part * more) (a * b) (x * y) := by
  have hx : |x| ≤ a + part * a :=
    calc |x| = |(x - a) + a| := by ring_nf
      _ ≤ |x - a| + |a| := abs_add_le _ _
      _ ≤ part * a + a := add_le_add h (abs_of_nonneg ha).le
      _ = a + part * a := add_comm _ _
  calc |x * y - a * b| = |x * (y - b) + (x - a) * b| := by ring_nf
    _ ≤ |x * (y - b)| + |(x - a) * b| := abs_add_le _ _
    _ = |x| * |y - b| + |x - a| * b := by rw [abs_mul, abs_mul, abs_of_nonneg hb]
    _ ≤ (a + part * a) * (more * b) + part * a * b := by
        refine add_le_add (mul_le_mul hx hmore (abs_nonneg _) (by positivity)) ?_
        exact mul_le_mul_of_nonneg_right h hb
    _ = (part + more + part * more) * (a * b) := by ring

/-- An error stays the same part when both numbers are divided. -/
theorem div (h : IsWithin part a x) {c : ℚ} (hc : 0 < c) : IsWithin part (a / c) (x / c) := by
  unfold IsWithin
  rw [← sub_div, abs_div, abs_of_pos hc, ← mul_div_assoc]
  exact div_le_div_of_nonneg_right h hc.le

end IsWithin

/-- Rounding to a whole number is off by at most a half, on either side. -/
theorem roundHalfEven_bounds (num : ℕ) {den : ℕ} (hden : 0 < den) :
    2 * (roundHalfEven num den * den) ≤ 2 * num + den ∧
      2 * num ≤ 2 * (roundHalfEven num den * den) + den := by
  have hsplit := Nat.div_add_mod' num den
  have hrest := Nat.mod_lt num hden
  unfold roundHalfEven
  split_ifs
  · omega
  · rw [Nat.add_mul]
    omega
  · rw [Nat.add_mul]
    rcases Nat.mod_two_eq_zero_or_one (num / den) with heven | hodd
    · rw [heven]
      omega
    · rw [hodd]
      omega

theorem abs_roundHalfEven_sub_le (num : ℕ) {den : ℕ} (hden : 0 < den) :
    |(roundHalfEven num den : ℚ) - num / den| ≤ 1 / 2 := by
  obtain ⟨hlow, hhigh⟩ := roundHalfEven_bounds num hden
  have hden' : (0 : ℚ) < den := by exact_mod_cast hden
  have hlow' : 2 * ((roundHalfEven num den : ℚ) * den) ≤ 2 * num + den := by exact_mod_cast hlow
  have hhigh' : (2 * num : ℚ) ≤ 2 * (roundHalfEven num den * den) + den := by exact_mod_cast hhigh
  have hdistance : (roundHalfEven num den : ℚ) - num / den =
      (roundHalfEven num den * den - num) / den := by
    field_simp
  rw [hdistance, abs_div, abs_of_pos hden', div_le_iff₀ hden', abs_le]
  constructor <;> linarith

/-- A power of ten is at most a power of two of somewhat more than three times the exponent. -/
theorem ten_pow_le_two_pow {a b : ℕ} (h : 10 * a ≤ 3 * b) : 10 ^ a ≤ 2 ^ b := by
  refine (Nat.pow_le_pow_iff_left (show 3 ≠ 0 by decide)).mp ?_
  calc (10 ^ a) ^ 3 = (10 ^ 3) ^ a := by rw [← Nat.pow_mul, ← Nat.pow_mul, Nat.mul_comm]
    _ ≤ (2 ^ 10) ^ a := Nat.pow_le_pow_left (by decide) a
    _ = 2 ^ (10 * a) := (Nat.pow_mul 2 10 a).symm
    _ ≤ 2 ^ (3 * b) := Nat.pow_le_pow_right (by decide) h
    _ = (2 ^ b) ^ 3 := by rw [← Nat.pow_mul, Nat.mul_comm]

namespace Binary64

/-- Rounding to a double's precision is off by at most one part in `2 ^ 53`, from the first number of
units on that has all its binary digits. -/
theorem isWithin_nearestUnits {num den : ℕ} (hden : 0 < den) (hlarge : 2 ^ 52 * den ≤ num) :
    IsWithin (1 / 2 ^ 53) (num / den) (nearestUnits num den) := by
  have hden' : (0 : ℚ) < den := by exact_mod_cast hden
  have hquotient : 2 ^ 52 ≤ num / den := (Nat.le_div_iff_mul_le hden).mpr hlarge
  have hlog : 52 ≤ (num / den).log2 := (Nat.le_log2 (by omega)).mpr hquotient
  have hstep : 2 ^ excessBits (num / den) * 2 ^ 52 ≤ num / den := by
    rw [← Nat.pow_add, excessBits, Nat.sub_add_cancel hlog]
    exact Nat.log2_self_le (by omega)
  have hpos : 0 < 2 ^ excessBits (num / den) := Nat.two_pow_pos _
  rw [nearestUnits_eq]
  generalize 2 ^ excessBits (num / den) = step at *
  have hpos' : (0 : ℚ) < step := by exact_mod_cast hpos
  have hratio : (step : ℚ) * 2 ^ 52 ≤ num / den :=
    calc (step : ℚ) * 2 ^ 52 ≤ (num / den : ℕ) := by exact_mod_cast hstep
      _ ≤ num / den := Nat.cast_div_le
  have hround := abs_roundHalfEven_sub_le num (Nat.mul_pos hden hpos)
  generalize roundHalfEven num (den * step) = rounded at *
  have hscaled : (num : ℚ) / den = num / (den * step : ℕ) * step := by
    push_cast
    field_simp
  unfold IsWithin
  calc |((rounded * step : ℕ) : ℚ) - num / den|
      = |(rounded : ℚ) - num / (den * step : ℕ)| * step := by
        rw [hscaled, Nat.cast_mul, ← sub_mul, abs_mul, abs_of_pos hpos']
    _ ≤ 1 / 2 * step := mul_le_mul_of_nonneg_right hround hpos'.le
    _ = 1 / 2 ^ 53 * (step * 2 ^ 52) := by ring
    _ ≤ 1 / 2 ^ 53 * (num / den) := by gcongr

/-- A ratio of units that is neither too small nor too large is read as a finite double near to it. -/
theorem exists_finite_ofUnits (negative : Bool) {num den : ℕ} (hden : 0 < den)
    (hlow : 2 ^ 52 * den ≤ num) (hhigh : nearestUnits num den < unitsLimit) :
    ∃ units, ∃ h : Representable units, ofUnits negative num den = .finite negative units h ∧
      IsWithin (1 / 2 ^ 53) (num / den / unitsPerOne) (units / unitsPerOne) :=
  ⟨_, representable_nearestUnits hhigh, dif_pos hhigh,
    (isWithin_nearestUnits hden hlow).div (Nat.cast_pos.mpr unitsPerOne_pos)⟩

/-- A finite double times one that is at most one is near to the exact product, unless that is too
small. -/
theorem exists_finite_mul {s t : Bool} {m n : ℕ} (hm : Representable m) (hn : Representable n)
    (hone : n ≤ unitsPerOne)
    (hlow : (2 ^ 52 : ℚ) ≤ (m / unitsPerOne) * (n / unitsPerOne) * unitsPerOne) :
    ∃ units, ∃ h : Representable units,
      (finite s m hm).mul (finite t n hn) = .finite (s != t) units h ∧
        IsWithin (1 / 2 ^ 53) ((m / unitsPerOne) * (n / unitsPerOne)) (units / unitsPerOne) := by
  have hpos : (0 : ℚ) < unitsPerOne := Nat.cast_pos.mpr unitsPerOne_pos
  have hround : nearestUnits (m * n) unitsPerOne < unitsLimit :=
    Nat.lt_of_le_of_lt (nearestUnits_le hm unitsPerOne_pos (Nat.mul_le_mul_left m hone)) hm.1
  have hproduct : ((m * n : ℕ) : ℚ) / unitsPerOne / unitsPerOne =
      (m / unitsPerOne) * (n / unitsPerOne) := by
    push_cast
    rw [div_mul_div_comm, div_div]
  have hlow' : 2 ^ 52 * unitsPerOne ≤ m * n := by
    rw [← hproduct, div_mul_cancel₀ _ hpos.ne', le_div_iff₀ hpos] at hlow
    exact_mod_cast hlow
  rw [← hproduct]
  exact exists_finite_ofUnits (s != t) unitsPerOne_pos hlow' hround

/-- From the negative three hundredth power of ten on, a number has so many units that a double has
all its binary digits for it. -/
theorem two_pow_le_mul_unitsPerOne {q : ℚ} {a : ℕ} (ha : a ≤ 300) (h : (10 : ℚ) ^ (-a : ℤ) ≤ q) :
    (2 ^ 52 : ℚ) ≤ q * unitsPerOne := by
  obtain ⟨places, hone, hplaces⟩ := unitsPerOne_eq_two_pow
  have hpower : 10 ^ a * 2 ^ 52 ≤ 2 ^ places :=
    calc 10 ^ a * 2 ^ 52 ≤ 2 ^ (places - 52) * 2 ^ 52 :=
          Nat.mul_le_mul_right _ (ten_pow_le_two_pow (by omega))
      _ = 2 ^ places := by rw [← Nat.pow_add, Nat.sub_add_cancel (by omega)]
  have hpower' : (10 : ℚ) ^ a * 2 ^ 52 ≤ 2 ^ places := by exact_mod_cast hpower
  rw [zpow_neg, zpow_natCast, inv_eq_one_div, div_le_iff₀ (by positivity)] at h
  rw [hone, Nat.cast_pow, Nat.cast_ofNat]
  calc (2 ^ 52 : ℚ) ≤ q * 10 ^ a * 2 ^ 52 := le_mul_of_one_le_left (by positivity) h
    _ = q * (10 ^ a * 2 ^ 52) := mul_assoc _ _ _
    _ ≤ q * 2 ^ places := by
        refine mul_le_mul_of_nonneg_left hpower' ?_
        exact (pos_of_mul_pos_left (lt_of_lt_of_le one_pos h) (by positivity)).le

/-- Up to the three hundredth power of ten, no number is past every double. -/
theorem nearestUnits_lt_unitsLimit {num den a : ℕ} (hden : 0 < den) (ha : a ≤ 300)
    (h : num ≤ 10 ^ a * den) : nearestUnits (num * unitsPerOne) den < unitsLimit := by
  obtain ⟨places, hone, hplaces⟩ := unitsPerOne_eq_two_pow
  obtain ⟨limit, hend, hlimit⟩ := unitsLimit_eq_two_pow
  have hlast : 2 ^ (limit - 1) < unitsLimit := by
    rw [hend]
    exact Nat.pow_lt_pow_right (by decide) (by omega)
  have hrep : Representable (2 ^ (limit - 1)) :=
    representable_iff.mpr ⟨hlast, 1, limit - 1, by decide, (Nat.one_mul _).symm⟩
  have hpower : 10 ^ a * unitsPerOne ≤ 2 ^ (limit - 1) :=
    calc 10 ^ a * unitsPerOne ≤ 2 ^ (limit - 1 - places) * 2 ^ places := by
          rw [hone]
          exact Nat.mul_le_mul_right _ (ten_pow_le_two_pow (by omega))
      _ = 2 ^ (limit - 1) := by rw [← Nat.pow_add, Nat.sub_add_cancel (by omega)]
  refine Nat.lt_of_le_of_lt (nearestUnits_le hrep hden ?_) hlast
  calc num * unitsPerOne ≤ 10 ^ a * den * unitsPerOne := Nat.mul_le_mul_right _ h
    _ = 10 ^ a * unitsPerOne * den := Nat.mul_right_comm _ _ _
    _ ≤ 2 ^ (limit - 1) * den := Nat.mul_le_mul_right _ hpower

end Binary64

namespace Decimal

/-- The decade of a decimal is told by its count of digits and its exponent. -/
theorem value_bounds {d : Decimal} (h : 0 < d.coefficient) :
    (10 : ℚ) ^ (digitCount d.coefficient + d.exponent - 1) ≤ d.value ∧
      d.value < 10 ^ (digitCount d.coefficient + d.exponent) := by
  have hcount := digitCount_pos d.coefficient
  have hfirst : 10 ^ (digitCount d.coefficient - 1) ≤ d.coefficient := ten_pow_le_of_pos h
  have hlast : d.coefficient < 10 ^ digitCount d.coefficient :=
    (digitCount_le_iff hcount).mp (Nat.le_refl _)
  have hpower : (0 : ℚ) < 10 ^ d.exponent := by positivity
  generalize digitCount d.coefficient = count at *
  constructor
  · rw [show (count : ℤ) + d.exponent - 1 = (count - 1 : ℕ) + d.exponent by omega,
      zpow_add₀ (by norm_num), zpow_natCast]
    exact mul_le_mul_of_nonneg_right (by exact_mod_cast hfirst) hpower.le
  · rw [zpow_add₀ (by norm_num), zpow_natCast]
    exact mul_lt_mul_of_pos_right (by exact_mod_cast hlast) hpower

/-- A decimal that is neither too small nor too large is read as a finite double near to it. -/
theorem exists_finite_toBinary64 (negative : Bool) {d : Decimal} {a b : ℕ} (ha : a ≤ 300)
    (hb : b ≤ 300) (hlow : (10 : ℚ) ^ (-a : ℤ) ≤ d.value) (hhigh : d.value ≤ 10 ^ b) :
    ∃ units, ∃ h : Binary64.Representable units, d.toBinary64 negative = .finite negative units h ∧
      IsWithin (1 / 2 ^ 53) d.value (units / Binary64.unitsPerOne) := by
  have hone : (0 : ℚ) < Binary64.unitsPerOne := Nat.cast_pos.mpr Binary64.unitsPerOne_pos
  have hden : (0 : ℚ) < d.den := Nat.cast_pos.mpr d.den_pos
  have hpos : 0 < d.coefficient := by
    refine Nat.pos_of_ne_zero fun hzero => ?_
    have : (0 : ℚ) < 10 ^ (-a : ℤ) := by positivity
    rw [value, hzero, Nat.cast_zero, zero_mul] at hlow
    linarith
  obtain ⟨hfirst, hlast⟩ := value_bounds hpos
  have hleft : (-a : ℤ) < digitCount d.coefficient + d.exponent :=
    (zpow_lt_zpow_iff_right₀ (by norm_num)).mp (lt_of_le_of_lt hlow hlast)
  have hright : (digitCount d.coefficient + d.exponent - 1 : ℤ) ≤ b := by
    rw [← zpow_natCast] at hhigh
    exact (zpow_le_zpow_iff_right₀ (by norm_num)).mp (hfirst.trans hhigh)
  have hratio := d.num_div_den
  have hbelow : 2 ^ 52 * d.den ≤ d.num * Binary64.unitsPerOne := by
    have hdigits := Binary64.two_pow_le_mul_unitsPerOne ha hlow
    rw [← hratio, div_mul_eq_mul_div, le_div_iff₀ hden] at hdigits
    exact_mod_cast hdigits
  have habove : d.num ≤ 10 ^ b * d.den := by
    rw [← hratio, div_le_iff₀ hden] at hhigh
    exact_mod_cast hhigh
  have hvalue : ((d.num * Binary64.unitsPerOne : ℕ) : ℚ) / d.den / Binary64.unitsPerOne =
      d.value := by
    rw [Nat.cast_mul, mul_div_right_comm, mul_div_cancel_right₀ _ hone.ne', hratio]
  rw [toBinary64_eq_ofRatio hpos (by omega) (by omega), ← hvalue]
  exact Binary64.exists_finite_ofUnits negative d.den_pos hbelow
    (Binary64.nearestUnits_lt_unitsLimit d.den_pos hb habove)

end Decimal

/-- A number of few digits is found again by rounding one that is near to it to fourteen digits. -/
theorem IsNearestMultiple.eq_of_isWithin {exact approximate rounded : ℚ} {c : ℕ} {e : ℤ}
    (hdigits : c < 10 ^ 14) (hexact : exact = c * 10 ^ e) (hpos : 0 < exact)
    (hnear : IsWithin (1 / (4 * 10 ^ 14)) exact approximate)
    (h : IsNearestMultiple (10 ^ (Int.log 10 approximate - 13)) approximate rounded) :
    rounded = exact := by
  have hlow := hnear.sub_le
  have hhigh := hnear.le_add
  have happroximate : 0 < approximate := by linarith
  have hdecade : (10 : ℚ) ^ Int.log 10 approximate ≤ approximate := by
    exact_mod_cast Int.zpow_log_le_self (b := 10) (by decide) happroximate
  have hnext : approximate < (10 : ℚ) ^ (Int.log 10 approximate + 1) := by
    exact_mod_cast Int.lt_zpow_succ_log_self (b := 10) (by decide) approximate
  generalize Int.log 10 approximate = decade at *
  have hplaces : decade - 13 ≤ e := by
    have hunit : (0 : ℚ) < 10 ^ e := by positivity
    have hlargest : exact ≤ (10 ^ 14 - 1) * 10 ^ e := by
      have hc : (c : ℚ) + 1 ≤ 10 ^ 14 := by exact_mod_cast hdigits
      rw [hexact]
      exact mul_le_mul_of_nonneg_right (by linarith) hunit.le
    have hbelow : (10 : ℚ) ^ decade < 10 ^ (14 + e) := by
      rw [zpow_add₀ (by norm_num), show (10 : ℚ) ^ (14 : ℤ) = 10 ^ 14 by norm_num]
      linarith
    have := (zpow_lt_zpow_iff_right₀ (by norm_num : (1 : ℚ) < 10)).mp hbelow
    omega
  -- The number is a multiple of the unit of the fourteenth digit, and nearer than half of it.
  have hmultiple : exact = ((c * 10 ^ (e - (decade - 13)).toNat : ℤ) : ℚ) * 10 ^ (decade - 13) := by
    rw [hexact]
    push_cast
    rw [← zpow_natCast, Int.toNat_of_nonneg (by omega), mul_assoc, ← zpow_add₀ (by norm_num),
      sub_add_cancel]
  have hstep : (10 : ℚ) ^ (decade + 1) = 10 ^ 14 * 10 ^ (decade - 13) := by
    rw [show decade + 1 = (14 : ℕ) + (decade - 13) by omega, zpow_add₀ (by norm_num), zpow_natCast]
  rw [hmultiple]
  refine h.eq_of_near _ ?_
  rw [← hmultiple]
  have hunit : (0 : ℚ) < 10 ^ (decade - 13) := by positivity
  calc |approximate - exact| ≤ 1 / (4 * 10 ^ 14) * exact := hnear
    _ < 10 ^ (decade - 13) / 2 := by linarith

end StyleTokens
