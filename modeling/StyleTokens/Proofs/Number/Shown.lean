import StyleTokens.Number.StyleText
import StyleTokens.Proofs.Number.Nearest

/-!
# What the text of a double shows

The text of a double shows its exact value if that is a whole number up to `2 ^ 53 - 1`, and its
fourteen significant digits otherwise. The double that is nearest to what is shown need not be the
one that was written, but it shows the same. The doubles are so dense that rounding to fourteen
digits finds the number again; only near zero they are not, and there few of them are left to look
at.
-/

namespace StyleTokens

/-- A whole number of which a text shows all digits. -/
def IsSafeInteger (q : ℚ) : Prop := ∃ n : ℤ, q = n ∧ n.natAbs ≤ maxSafeInteger

/-- What the text of a double with a value shows. -/
inductive IsShown (q shown : ℚ) : Prop where
  /-- All digits. -/
  | whole (hsafe : IsSafeInteger q) (hsame : shown = q)
  /-- Fourteen digits. -/
  | rounded (hsafe : ¬IsSafeInteger q)
    (hnearest : IsNearestMultiple (10 ^ (Int.log 10 |q| - 13)) q shown)

theorem IsSafeInteger.neg {q : ℚ} (h : IsSafeInteger q) : IsSafeInteger (-q) := by
  obtain ⟨n, rfl, hn⟩ := h
  exact ⟨-n, by rw [Int.cast_neg], by rwa [Int.natAbs_neg]⟩

theorem isSafeInteger_zero : IsSafeInteger 0 := ⟨0, by rw [Int.cast_zero], by decide⟩

/-- Numbers on either side of zero are shown alike. -/
theorem IsShown.neg {q shown : ℚ} (h : IsShown q shown) : IsShown (-q) (-shown) := by
  cases h with
  | whole hsafe hsame => exact .whole hsafe.neg (by rw [hsame])
  | rounded hsafe hnearest =>
    refine .rounded (fun hneg => hsafe (by simpa using hneg.neg)) ?_
    rw [abs_neg]
    exact hnearest.neg

/-! ### Fourteen digits -/

/-- A number of fourteen digits, the last of which counts for a power of ten. The power may be that
of a fifteenth digit if rounding has carried into a new decade. -/
structure HasDigits (shown : ℚ) (digits : ℕ) (place : ℤ) : Prop where
  /-- The first digit is not zero. -/
  low : 10 ^ 13 ≤ digits
  /-- There are no more digits, unless all but the first are zeros. -/
  high : digits ≤ 10 ^ 14
  /-- The number is made of the digits. -/
  eq : shown = digits * 10 ^ place

namespace HasDigits

variable {shown q near : ℚ} {digits : ℕ} {place : ℤ}

theorem pos (h : HasDigits shown digits place) : 0 < shown := by
  have hdigits : (0 : ℚ) < digits := Nat.cast_pos.mpr (lt_of_lt_of_le (by norm_num) h.low)
  rw [h.eq]
  positivity

theorem ten_pow_le (h : HasDigits shown digits place) : 10 ^ 13 * 10 ^ place ≤ shown := by
  rw [h.eq]
  exact mul_le_mul_of_nonneg_right (by exact_mod_cast h.low) (by positivity)

theorem le_ten_pow (h : HasDigits shown digits place) : shown ≤ 10 ^ 14 * 10 ^ place := by
  rw [h.eq]
  exact mul_le_mul_of_nonneg_right (by exact_mod_cast h.high) (by positivity)

/-- A positive number is rounded to one of fourteen digits. -/
theorem exists_of_isNearestMultiple (hq : 0 < q)
    (h : IsNearestMultiple (10 ^ (Int.log 10 q - 13)) q shown) :
    ∃ digits, HasDigits shown digits (Int.log 10 q - 13) := by
  have hdecade : (10 : ℚ) ^ Int.log 10 q ≤ q := by
    exact_mod_cast Int.zpow_log_le_self (b := 10) (by decide) hq
  have hnext : q < (10 : ℚ) ^ (Int.log 10 q + 1) := by
    exact_mod_cast Int.lt_zpow_succ_log_self (b := 10) (by decide) q
  generalize Int.log 10 q = decade at *
  have hstep : (0 : ℚ) < 10 ^ (decade - 13) := by positivity
  rw [show decade = (13 : ℕ) + (decade - 13) by omega, zpow_add₀ (by norm_num),
    zpow_natCast] at hdecade
  rw [show decade + 1 = (14 : ℕ) + (decade - 13) by omega, zpow_add₀ (by norm_num),
    zpow_natCast] at hnext
  have hleast := h.nearest (10 ^ 13)
  have hmost := h.nearest (10 ^ 14)
  obtain ⟨n, rfl⟩ := h.multiple
  generalize hunit : (10 : ℚ) ^ (decade - 13) = step at *
  simp only [Int.cast_pow, Int.cast_ofNat] at hleast hmost
  rw [abs_of_nonneg (show 0 ≤ q - 10 ^ 13 * step by linarith)] at hleast
  rw [abs_of_nonpos (show q - 10 ^ 14 * step ≤ 0 by linarith)] at hmost
  have hlow : (10 : ℤ) ^ 13 ≤ n := by
    have : (10 : ℚ) ^ 13 * step ≤ n * step := by linarith [(abs_le.mp hleast).2]
    exact_mod_cast le_of_mul_le_mul_right this hstep
  have hhigh : n ≤ (10 : ℤ) ^ 14 := by
    have : n * step ≤ (10 : ℚ) ^ 14 * step := by linarith [(abs_le.mp hmost).1]
    exact_mod_cast le_of_mul_le_mul_right this hstep
  obtain ⟨digits, rfl⟩ := Int.eq_ofNat_of_zero_le (show 0 ≤ n by omega)
  exact ⟨digits, by exact_mod_cast hlow, by exact_mod_cast hhigh, by rw [hunit, Int.cast_natCast]⟩

/-- What is shown of a double is not past every double. -/
theorem le_largestDouble (h : HasDigits shown digits (Int.log 10 q - 13)) (hpos : 0 < q)
    (hq : q ≤ largestDouble) (hnear : |q - shown| ≤ 10 ^ (Int.log 10 q - 13) / 2) :
    shown ≤ largestDouble := by
  have hdecade : (10 : ℚ) ^ Int.log 10 q ≤ q := by
    exact_mod_cast Int.zpow_log_le_self (b := 10) (by decide) hpos
  have hbound : Int.log 10 q < 309 :=
    (zpow_lt_zpow_iff_right₀ (by norm_num)).mp ((hdecade.trans hq).trans_lt largestDouble_lt)
  obtain ⟨hfirst, hlast⟩ := largestDouble_bounds
  rcases (show Int.log 10 q ≤ 308 by omega).lt_or_eq with hless | htop
  · have hstep : (10 : ℚ) ^ (Int.log 10 q - 13) ≤ 10 ^ 294 := by
      rw [← zpow_natCast]
      exact zpow_le_zpow_right₀ (by norm_num) (by push_cast; omega)
    refine h.le_ten_pow.trans (le_trans ?_ hfirst)
    rw [show (10 : ℚ) ^ 295 = 10 * 10 ^ 294 by rw [← pow_succ']]
    have hpower : (0 : ℚ) < 10 ^ 294 := by positivity
    generalize (10 : ℚ) ^ 294 = power at *
    generalize (10 : ℚ) ^ (Int.log 10 q - 13) = step at *
    linarith only [hstep, hpower]
  · have heq := h.eq
    rw [show Int.log 10 q - 13 = (295 : ℕ) by omega, zpow_natCast,
      show (10 : ℚ) ^ 295 = 10 * 10 ^ 294 by rw [← pow_succ']] at heq hnear
    rw [show (10 : ℚ) ^ 295 = 10 * 10 ^ 294 by rw [← pow_succ']] at hfirst
    have hpower : (0 : ℚ) < 10 ^ 294 := by positivity
    generalize (10 : ℚ) ^ 294 = power at *
    have hdigits : digits < 17976931348624 := by
      have hbelow : (digits : ℚ) * (10 * power) < 17976931348624 * (10 * power) := by
        rw [← heq]
        linarith [(abs_le.mp hnear).1]
      exact_mod_cast lt_of_mul_lt_mul_right hbelow (by positivity)
    have hdigits' : (digits : ℚ) ≤ 17976931348623 := by exact_mod_cast Nat.lt_succ_iff.mp hdigits
    rw [heq]
    exact (mul_le_mul_of_nonneg_right hdigits' (by positivity)).trans hfirst

/-- A whole number near to a number of fourteen digits is that number, if it is near enough to be
the nearest double. -/
theorem eq_of_isSafeInteger (h : HasDigits shown digits place)
    (hnear : |shown - near| ≤ 10 ^ place / 2) (hnearest : IsNearestDouble shown near)
    (hsafe : IsSafeInteger near) : near = shown := by
  obtain ⟨n, rfl, hn⟩ := hsafe
  rcases le_total place 0 with hfraction | hwhole
  · -- Both are multiples of the place, and less than one of it apart.
    have hmultiple : (n : ℚ) = (n * 10 ^ (-place).toNat : ℤ) * 10 ^ place := by
      push_cast
      rw [← zpow_natCast, Int.toNat_of_nonneg (by omega), mul_assoc, ← zpow_add₀ (by norm_num),
        neg_add_cancel, zpow_zero, mul_one]
    have hstep : (0 : ℚ) < 10 ^ place := by positivity
    rw [h.eq] at hnear ⊢
    rw [hmultiple] at hnear ⊢
    generalize n * 10 ^ (-place).toNat = m at *
    have hapart : |((digits : ℤ) : ℚ) * 10 ^ place - m * 10 ^ place| < 10 ^ place := by
      rw [Int.cast_natCast]
      linarith
    rw [← IsNearestMultiple.multiple_eq_of_abs_sub_lt hstep hapart, Int.cast_natCast]
  · -- The number of fourteen digits is a whole number, too.
    have hshown : shown = (digits * 10 ^ place.toNat : ℕ) := by
      rw [h.eq]
      push_cast
      rw [← zpow_natCast, Int.toNat_of_nonneg hwhole]
    generalize digits * 10 ^ place.toNat = m at hshown
    rw [hshown] at hnearest ⊢
    rcases Nat.le_or_ge m (2 ^ 53) with hsmall | hlarge
    · exact hnearest.eq_of_isDouble (isDouble_natCast hsmall)
    · have hdistance := hnearest.nearest _ (isDouble_natCast (Nat.le_refl (2 ^ 53)))
      have hsafe : (n : ℚ) ≤ 2 ^ 53 - 1 := by
        have : n ≤ 2 ^ 53 - 1 := by
          rw [maxSafeInteger, Nat.pow_eq] at hn
          omega
        exact_mod_cast this
      have hlarge' : (2 ^ 53 : ℚ) ≤ m := by exact_mod_cast hlarge
      push_cast at hdistance
      rw [abs_of_nonneg (by linarith), abs_of_nonneg (by linarith)] at hdistance
      linarith

/-- Fourteen digits are found again by rounding a number that is near to them, compared with
them. -/
theorem eq_of_isWithin {again : ℚ} (h : HasDigits shown digits place)
    (hnear : IsWithin (1 / (4 * 10 ^ 14)) shown near)
    (hagain : IsNearestMultiple (10 ^ (Int.log 10 near - 13)) near again) : again = shown := by
  rcases h.high.lt_or_eq with hless | hcarry
  · exact hagain.eq_of_isWithin hless h.eq h.pos hnear
  · have hfewer : shown = (10 ^ 13 : ℕ) * 10 ^ (place + 1) := by
      rw [h.eq, hcarry, zpow_add_one₀ (by norm_num)]
      push_cast
      ring
    exact hagain.eq_of_isWithin (by norm_num) hfewer h.pos hnear

end HasDigits

/-! ### Numbers near zero -/

/-- How many units the three hundred and twenty-third digit behind the point counts for. -/
def tinyUnits : ℚ := 10 ^ (-323 : ℤ) * Binary64.unitsPerOne

/-- How many units a digit counts for. -/
theorem zpow_mul_unitsPerOne (place : ℤ) :
    (10 : ℚ) ^ place * Binary64.unitsPerOne = 10 ^ (place + 323) * tinyUnits := by
  rw [tinyUnits, ← mul_assoc, ← zpow_add₀ (by norm_num), add_neg_cancel_right]

theorem tinyUnits_bounds : 20240225330731 ≤ 10 ^ 13 * tinyUnits ∧
    10 ^ 13 * tinyUnits ≤ 20240225330731 + 1 / 10 := by
  have hlow : 20240225330731 * 10 ^ 310 ≤ Binary64.unitsPerOne := by decide +kernel
  have hhigh : 10 * Binary64.unitsPerOne ≤ 202402253307311 * 10 ^ 310 := by decide +kernel
  have hlow' : (20240225330731 * 10 ^ 310 : ℚ) ≤ Binary64.unitsPerOne := by exact_mod_cast hlow
  have hhigh' : (10 * Binary64.unitsPerOne : ℚ) ≤ 202402253307311 * 10 ^ 310 := by
    exact_mod_cast hhigh
  have hscaled : 10 ^ 13 * tinyUnits * 10 ^ 310 = Binary64.unitsPerOne := by
    have hplaces : (10 : ℚ) ^ (-310 : ℤ) * 10 ^ 310 = 1 := by
      rw [← zpow_natCast, ← zpow_add₀ (by norm_num)]
      rfl
    have hplace := zpow_mul_unitsPerOne (-310)
    rw [show (-310 + 323 : ℤ) = (13 : ℕ) from rfl, zpow_natCast] at hplace
    rw [← hplace, mul_right_comm, hplaces, one_mul]
  have hpower : (0 : ℚ) < 10 ^ 310 := by positivity
  rw [← hscaled] at hlow' hhigh'
  generalize (10 : ℚ) ^ 310 = power at *
  generalize 10 ^ 13 * tinyUnits = tiny at *
  constructor
  · exact le_of_mul_le_mul_right hlow' hpower
  · refine le_of_mul_le_mul_right ?_ hpower
    linarith

/-- A digit that counts for a unit or more, but for fewer than twenty, is that digit. -/
theorem place_eq_of_units {place : ℤ} (hlow : 1 ≤ (10 : ℚ) ^ place * Binary64.unitsPerOne)
    (hhigh : (10 : ℚ) ^ place * Binary64.unitsPerOne < 20) : place = -323 := by
  obtain ⟨hleast, hmost⟩ := tinyUnits_bounds
  rw [zpow_mul_unitsPerOne] at hlow hhigh
  have hpower : (0 : ℚ) < 10 ^ (place + 323) := by positivity
  have hafter : (10 : ℚ) ^ (-1 : ℤ) < 10 ^ (place + 323) := by
    rw [zpow_neg_one]
    nlinarith
  have hbefore : (10 : ℚ) ^ (place + 323) < 10 ^ (1 : ℤ) := by
    rw [zpow_one]
    nlinarith
  have hmore := (zpow_lt_zpow_iff_right₀ (by norm_num)).mp hafter
  have hless := (zpow_lt_zpow_iff_right₀ (by norm_num)).mp hbefore
  omega

/-- The decade of a number of units that begins with such a digit's thirteenth or fourteenth
neighbour in front. -/
theorem log_eq_of_units {q : ℚ} {decade : ℤ}
    (hlow : 10 ^ (decade + 323) * tinyUnits ≤ q * Binary64.unitsPerOne)
    (hhigh : q * Binary64.unitsPerOne < 10 ^ (decade + 1 + 323) * tinyUnits) :
    Int.log 10 q = decade := by
  have hone : (0 : ℚ) < Binary64.unitsPerOne := Nat.cast_pos.mpr Binary64.unitsPerOne_pos
  rw [← zpow_mul_unitsPerOne] at hlow hhigh
  exact (eq_log_of_bounds (le_of_mul_le_mul_right hlow hone)
    (lt_of_mul_lt_mul_right hhigh hone.le)).symm

namespace HasDigits

variable {shown near again : ℚ} {digits : ℕ}

/-- Fourteen digits, of which the last counts for about two units, are found again by rounding a
number near to them that begins in the same decade. -/
theorem eq_of_tiny_of_ge (h : HasDigits shown digits (-323))
    (hsmall : shown * Binary64.unitsPerOne < 2 * 10 ^ 14)
    (hnear : |shown - near| * Binary64.unitsPerOne ≤ 1 / 2)
    (hdecade : 10 ^ 13 * tinyUnits ≤ near * Binary64.unitsPerOne)
    (hagain : IsNearestMultiple (10 ^ (Int.log 10 near - 13)) near again) : again = shown := by
  obtain ⟨hleast, -⟩ := tinyUnits_bounds
  have hone : (0 : ℚ) < Binary64.unitsPerOne := Nat.cast_pos.mpr Binary64.unitsPerOne_pos
  have habove : near * Binary64.unitsPerOne ≤ shown * Binary64.unitsPerOne + 1 / 2 := by
    have hapart := mul_le_mul_of_nonneg_right (neg_abs_le (shown - near)) hone.le
    rw [neg_mul, sub_mul] at hapart
    linarith
  have hlog : Int.log 10 near = -310 := by
    refine log_eq_of_units hdecade ?_
    rw [show (-310 + 1 + 323 : ℤ) = (14 : ℕ) from rfl, zpow_natCast]
    linarith
  rw [hlog, show (-310 - 13 : ℤ) = -323 from rfl] at hagain
  have hhalf : |near - shown| < 10 ^ (-323 : ℤ) / 2 := by
    refine lt_of_mul_lt_mul_right ?_ hone.le
    rw [abs_sub_comm, div_mul_eq_mul_div]
    exact hnear.trans_lt (by rw [← tinyUnits]; linarith)
  rw [h.eq] at hhalf ⊢
  exact hagain.eq_of_near digits hhalf

/-- Only one double that begins in the decade before fourteen such digits is as near to them as
half a unit. -/
theorem units_eq_of_tiny_of_lt {units : ℕ} (h : HasDigits shown digits (-323))
    (hnear : |shown * Binary64.unitsPerOne - units| ≤ 1 / 2) (hless : units < 10 ^ 13 * tinyUnits) :
    digits = 10 ^ 13 ∧ units = 20240225330731 := by
  obtain ⟨hleast, hmost⟩ := tinyUnits_bounds
  have hshown : shown * Binary64.unitsPerOne = digits * tinyUnits := by
    rw [h.eq, tinyUnits, mul_assoc]
  rw [hshown] at hnear
  obtain ⟨hbelow, habove⟩ := abs_le.mp hnear
  have hdigits : digits = 10 ^ 13 := by
    refine le_antisymm (Nat.le_of_lt_succ ?_) h.low
    have htiny : 0 < tinyUnits := by linarith
    have hfewer : digits * tinyUnits < (10 ^ 13 + 1) * tinyUnits := by linarith
    exact_mod_cast lt_of_mul_lt_mul_right hfewer htiny.le
  refine ⟨hdigits, ?_⟩
  rw [hdigits] at hbelow habove
  push_cast at hbelow habove
  have hfrom : (20240225330730 : ℚ) < units := by linarith
  have hto : (units : ℚ) < 20240225330732 := by linarith
  have hfrom' : 20240225330730 < units := by exact_mod_cast hfrom
  have hto' : units < 20240225330732 := by exact_mod_cast hto
  omega

/-- Fourteen such digits are found again by rounding a double near to them that begins in the decade
before. -/
theorem eq_of_tiny_of_lt (h : HasDigits shown digits (-323)) (hdouble : IsDouble near)
    (hpos : 0 < near) (hnear : |shown - near| * Binary64.unitsPerOne ≤ 1 / 2)
    (hdecade : near * Binary64.unitsPerOne < 10 ^ 13 * tinyUnits)
    (hagain : IsNearestMultiple (10 ^ (Int.log 10 near - 13)) near again) : again = shown := by
  obtain ⟨units, -, hunits⟩ := isDouble_iff.mp hdouble
  obtain ⟨hleast, hmost⟩ := tinyUnits_bounds
  have hone : (0 : ℚ) < Binary64.unitsPerOne := Nat.cast_pos.mpr Binary64.unitsPerOne_pos
  rw [abs_of_pos hpos, eq_div_iff hone.ne'] at hunits
  obtain ⟨hdigits, hsingle⟩ : digits = 10 ^ 13 ∧ units = 20240225330731 := by
    refine h.units_eq_of_tiny_of_lt ?_ (hunits ▸ hdecade)
    rw [← hunits, ← sub_mul, abs_mul, abs_of_pos hone]
    exact hnear
  rw [hsingle, Nat.cast_ofNat] at hunits
  have hlog : Int.log 10 near = -311 := by
    refine log_eq_of_units ?_ hdecade
    rw [hunits, show (-311 + 323 : ℤ) = (12 : ℕ) from rfl, zpow_natCast]
    linarith
  rw [hlog, show (-311 - 13 : ℤ) = -324 from rfl] at hagain
  have hshift : shown = ((10 ^ 14 : ℤ) : ℚ) * 10 ^ (-324 : ℤ) := by
    rw [h.eq, hdigits, show (-323 : ℤ) = -324 + 1 from rfl, zpow_add_one₀ (by norm_num)]
    generalize (10 : ℚ) ^ (-324 : ℤ) = unit
    push_cast
    ring
  have hhalf : |near - shown| < 10 ^ (-324 : ℤ) / 2 := by
    rw [hunits] at hdecade
    refine lt_of_mul_lt_mul_right ?_ hone.le
    rw [div_mul_eq_mul_div, zpow_mul_unitsPerOne, show (-324 + 323 : ℤ) = -1 from rfl,
      zpow_neg_one, ← abs_of_pos hone, ← abs_mul, sub_mul, hunits, h.eq, hdigits, mul_assoc,
      ← tinyUnits, abs_sub_comm, Nat.cast_pow, Nat.cast_ofNat, abs_of_pos (sub_pos.mpr hdecade)]
    linarith
  rw [hshift] at hhalf ⊢
  exact hagain.eq_of_near _ hhalf

end HasDigits

/-! ### What is shown again -/

/-- The double nearest to fourteen digits that a positive double was rounded to shows the same. -/
theorem IsNearestMultiple.eq_of_isNearestDouble {q shown near again : ℚ} (hq : IsDouble q)
    (hpos : 0 < q) (hshown : IsNearestMultiple (10 ^ (Int.log 10 q - 13)) q shown)
    (hnear : IsNearestDouble shown near) (hagain : IsShown near again) : again = shown := by
  obtain ⟨digits, hdigits⟩ := HasDigits.exists_of_isNearestMultiple hpos hshown
  have hfirst := hdigits.ten_pow_le
  have hstep : (0 : ℚ) < 10 ^ (Int.log 10 q - 13) := by positivity
  have hhalf := hshown.abs_sub_le_half hstep
  have hdistance : |shown - near| ≤ 10 ^ (Int.log 10 q - 13) / 2 :=
    (hnear.nearest q hq).trans (abs_sub_comm q shown ▸ hhalf)
  cases hagain with
  | whole hsafe hsame =>
    rw [hsame]
    exact hdigits.eq_of_isSafeInteger hdistance hnear hsafe
  | rounded _ hagain =>
    have hnearPos : 0 < near := by
      generalize (10 : ℚ) ^ (Int.log 10 q - 13) = step at *
      linarith [(abs_le.mp hdistance).2]
    rw [abs_of_pos hnearPos] at hagain
    by_cases hsame : near = q
    · rw [hsame] at hagain
      exact hshown.unique hagain hpos.ne'
    rcases le_or_gt (2 * 10 ^ 14) (shown * Binary64.unitsPerOne) with hlarge | hsmall
    · have hbound : q ≤ largestDouble := (le_abs_self q).trans hq.abs_le
      exact hdigits.eq_of_isWithin
        (hnear.isWithin hlarge (hdigits.le_largestDouble hpos hbound hhalf)) hagain
    · -- Two doubles are no farther apart than a digit, so the digit counts for a unit or more.
      have hone : (0 : ℚ) < Binary64.unitsPerOne := Nat.cast_pos.mpr Binary64.unitsPerOne_pos
      have hapart := hnear.isDouble.one_le_abs_sub_mul hq hsame
      have hplace : Int.log 10 q - 13 = -323 := by
        refine place_eq_of_units (hapart.trans (mul_le_mul_of_nonneg_right ?_ hone.le)) ?_
        · have htriangle := abs_sub_le near shown q
          rw [abs_sub_comm near shown, abs_sub_comm shown q] at htriangle
          linarith
        · have hunits := mul_le_mul_of_nonneg_right hfirst hone.le
          rw [mul_assoc] at hunits
          linarith
      rw [hplace] at hdigits
      have hunit := hnear.abs_sub_le_half_unit hdigits.pos.le (hsmall.trans (by norm_num))
      rcases le_or_gt (10 ^ 13 * tinyUnits) (near * Binary64.unitsPerOne) with hge | hlt
      · exact hdigits.eq_of_tiny_of_ge hsmall hunit hge hagain
      · exact hdigits.eq_of_tiny_of_lt hnear.isDouble hnearPos hunit hlt hagain

/-- The double nearest to what is shown of a double shows the same. -/
theorem IsShown.eq_of_isNearestDouble {q shown near again : ℚ} (hq : IsDouble q)
    (hshown : IsShown q shown) (hnear : IsNearestDouble shown near) (hagain : IsShown near again) :
    again = shown := by
  cases hshown with
  | whole hsafe hsame =>
    rw [hsame] at hnear ⊢
    rw [hnear.eq_of_isDouble hq] at hagain
    cases hagain with
    | whole _ hagain => exact hagain
    | rounded hunsafe _ => exact absurd hsafe hunsafe
  | rounded hunsafe hrounded =>
    rcases lt_trichotomy q 0 with hneg | hzero | hpos
    · rw [← abs_neg, abs_of_pos (neg_pos.mpr hneg)] at hrounded
      exact neg_injective (hrounded.neg.eq_of_isNearestDouble hq.neg (neg_pos.mpr hneg) hnear.neg
        hagain.neg)
    · exact absurd (hzero ▸ isSafeInteger_zero) hunsafe
    · rw [abs_of_pos hpos] at hrounded
      exact hrounded.eq_of_isNearestDouble hq hpos hnear hagain

/-! ### How large and how small it is -/

/-- Fourteen digits that a positive double was rounded to are far from both of the bounds past which
decimals are not rounded. -/
theorem IsNearestMultiple.bounds_of_isDouble {q shown : ℚ} (hq : IsDouble q) (hpos : 0 < q)
    (hshown : IsNearestMultiple (10 ^ (Int.log 10 q - 13)) q shown) :
    (10 : ℚ) ^ (-400 : ℤ) ≤ shown ∧ shown ≤ largestDouble := by
  obtain ⟨digits, hdigits⟩ := HasDigits.exists_of_isNearestMultiple hpos hshown
  refine ⟨le_trans ?_ hdigits.ten_pow_le, hdigits.le_largestDouble hpos
    ((le_abs_self q).trans hq.abs_le) (hshown.abs_sub_le_half (by positivity))⟩
  have hone : (0 : ℚ) < Binary64.unitsPerOne := Nat.cast_pos.mpr Binary64.unitsPerOne_pos
  have hunit := hq.one_le_abs_sub_mul isDouble_zero hpos.ne'
  rw [sub_zero, abs_of_pos hpos] at hunit
  have hsmall : (10 : ℚ) ^ (-324 : ℤ) < q := by
    refine lt_of_mul_lt_mul_right ?_ hone.le
    rw [zpow_mul_unitsPerOne, show (-324 + 323 : ℤ) = -1 from rfl, zpow_neg_one]
    linarith [tinyUnits_bounds.2]
  have hnext : q < (10 : ℚ) ^ (Int.log 10 q + 1) := by
    exact_mod_cast Int.lt_zpow_succ_log_self (b := 10) (by decide) q
  have hdecade := (zpow_lt_zpow_iff_right₀ (by norm_num)).mp (hsmall.trans hnext)
  rw [← zpow_natCast, ← zpow_add₀ (by norm_num)]
  exact zpow_le_zpow_right₀ (by norm_num) (by push_cast; omega)

/-- What is shown of a double is zero or far from both of these bounds. -/
theorem IsShown.bounds {q shown : ℚ} (hq : IsDouble q) (h : IsShown q shown) :
    (shown = 0 ∨ (10 : ℚ) ^ (-400 : ℤ) ≤ |shown|) ∧ |shown| ≤ largestDouble := by
  cases h with
  | whole hsafe hsame =>
    obtain ⟨n, hn, -⟩ := hsafe
    rw [hsame]
    refine ⟨or_iff_not_imp_left.mpr fun hne => ?_, hq.abs_le⟩
    have hwhole : n ≠ 0 := fun hzero => hne (by rw [hn, hzero, Int.cast_zero])
    have hlarge : (1 : ℚ) ≤ |q| := by
      rw [hn]
      exact_mod_cast Int.one_le_abs hwhole
    exact (zpow_le_one_of_nonpos₀ (by norm_num) (by decide)).trans hlarge
  | rounded hunsafe hrounded =>
    rcases lt_trichotomy q 0 with hneg | hzero | hpos
    · rw [← abs_neg, abs_of_pos (neg_pos.mpr hneg)] at hrounded
      obtain ⟨hlow, hhigh⟩ := hrounded.neg.bounds_of_isDouble hq.neg (neg_pos.mpr hneg)
      have hshown : 0 < -shown := lt_of_lt_of_le (by positivity) hlow
      rw [← abs_neg, abs_of_pos hshown]
      exact ⟨.inr hlow, hhigh⟩
    · exact absurd (hzero ▸ isSafeInteger_zero) hunsafe
    · rw [abs_of_pos hpos] at hrounded
      obtain ⟨hlow, hhigh⟩ := hrounded.bounds_of_isDouble hq hpos
      have hshown : 0 < shown := lt_of_lt_of_le (by positivity) hlow
      rw [abs_of_pos hshown]
      exact ⟨.inr hlow, hhigh⟩

end StyleTokens
