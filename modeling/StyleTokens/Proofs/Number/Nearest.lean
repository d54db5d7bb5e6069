import StyleTokens.Proofs.Number.RelativeError

/-!
# The nearest double

Rounding a ratio gives a number of units that is as near to it as any that a double has. From there
come the bounds on the distance to the nearest double: half a unit for small numbers, and a small
part of the number itself for all others.
-/

namespace StyleTokens

/-- Rounding to a whole number gives one that is as near as any. -/
theorem abs_sub_roundHalfEven_le (num : ℕ) {den : ℕ} (hden : 0 < den) (n : ℤ) :
    |(num / den : ℚ) - roundHalfEven num den| ≤ |(num / den : ℚ) - n| := by
  have hhalf := abs_roundHalfEven_sub_le num hden
  rw [abs_sub_comm] at hhalf
  rcases eq_or_ne n (roundHalfEven num den) with rfl | hne
  · rw [Int.cast_natCast]
  · have hapart : (1 : ℚ) ≤ |(n : ℚ) - roundHalfEven num den| := by
      exact_mod_cast Int.one_le_abs (sub_ne_zero.mpr hne)
    have htriangle := abs_sub_le (n : ℚ) (num / den) (roundHalfEven num den)
    rw [abs_sub_comm (n : ℚ) (num / den)] at htriangle
    linarith

/-- The largest number that a double has as its value. -/
def largestDouble : ℚ := (2 ^ 53 - 1) * 2 ^ 971

/-- The first fourteen digits of the largest double, and the fifteenth. -/
theorem largestDouble_bounds :
    17976931348623 * 10 ^ 295 ≤ largestDouble ∧ largestDouble ≤ 179769313486232 * 10 ^ 294 := by
  have hlow : 17976931348623 * 10 ^ 295 ≤ 9007199254740991 * 2 ^ 971 := by decide +kernel
  have hhigh : 9007199254740991 * 2 ^ 971 ≤ 179769313486232 * 10 ^ 294 := by decide +kernel
  have hsignificand : (2 ^ 53 - 1 : ℚ) = 9007199254740991 := by norm_num
  rw [largestDouble, hsignificand]
  exact_mod_cast And.intro hlow hhigh

theorem largestDouble_lt : largestDouble < (10 : ℚ) ^ (309 : ℤ) := by
  have hpower : (10 : ℚ) ^ (309 : ℤ) = 10 ^ 15 * 10 ^ 294 := by
    rw [show (309 : ℤ) = (15 + 294 : ℕ) from rfl, zpow_natCast, pow_add]
  rw [hpower]
  refine largestDouble_bounds.2.trans_lt (mul_lt_mul_of_pos_right (by norm_num) (by positivity))

namespace Binary64

/-- A number of units whose excess digits are fewer than those of a larger one stays below the power
of two that the larger one begins with. -/
theorem lt_two_pow_of_not_dvd {units n : ℕ} (hrep : Representable units)
    (h : ¬2 ^ excessBits n ∣ units) : units < 2 ^ n.log2 := by
  have hfewer : excessBits units < excessBits n := by
    by_contra hmore
    exact h ((Nat.pow_dvd_pow 2 (Nat.le_of_not_lt hmore)).trans (two_pow_excessBits_dvd hrep))
  refine Nat.lt_log2_self.trans_le (Nat.pow_le_pow_right (by decide) ?_)
  unfold excessBits at hfewer
  omega

/-- Rounding to a double's precision gives a number of units that is as near as any with no more
binary digits. -/
theorem abs_sub_nearestUnits_le_of_dvd {num den units : ℕ} (hden : 0 < den)
    (h : 2 ^ excessBits (num / den) ∣ units) :
    |(num / den : ℚ) - nearestUnits num den| ≤ |(num / den : ℚ) - units| := by
  obtain ⟨n, rfl⟩ := h
  have hstep : 0 < 2 ^ excessBits (num / den) := Nat.two_pow_pos _
  rw [nearestUnits_eq]
  generalize 2 ^ excessBits (num / den) = step at *
  have hstep' : (0 : ℚ) < step := by exact_mod_cast hstep
  have hden' : (den : ℚ) ≠ 0 := by exact_mod_cast hden.ne'
  have hscaled (k : ℚ) :
      |(num / den : ℚ) - k * step| = |(num / (den * step : ℕ) : ℚ) - k| * step := by
    rw [← abs_of_pos hstep', ← abs_mul, abs_of_pos hstep']
    congr 1
    push_cast
    field_simp
  have hround := abs_sub_roundHalfEven_le num (Nat.mul_pos hden hstep) n
  rw [Int.cast_natCast] at hround
  push_cast at hround hscaled ⊢
  rw [hscaled, mul_comm (step : ℚ) n, hscaled]
  exact mul_le_mul_of_nonneg_right hround hstep'.le

/-- Rounding to a double's precision gives a number of units that is as near as any that a double
has. -/
theorem abs_sub_nearestUnits_le {num den units : ℕ} (hden : 0 < den) (hrep : Representable units) :
    |(num / den : ℚ) - nearestUnits num den| ≤ |(num / den : ℚ) - units| := by
  by_cases hdvd : 2 ^ excessBits (num / den) ∣ units
  · exact abs_sub_nearestUnits_le_of_dvd hden hdvd
  · -- The power of two that the ratio begins with lies between.
    have hbelow := lt_two_pow_of_not_dvd hrep hdvd
    have hfloor : 2 ^ (num / den).log2 ≤ num / den := by
      refine Nat.log2_self_le fun hzero => hdvd ?_
      rw [hzero]
      exact one_dvd units
    have hfirst := abs_sub_nearestUnits_le_of_dvd hden
      (Nat.pow_dvd_pow 2 (Nat.sub_le (num / den).log2 52))
    generalize 2 ^ (num / den).log2 = power at *
    have hpower : (power : ℚ) ≤ num / den :=
      calc (power : ℚ) ≤ (num / den : ℕ) := by exact_mod_cast hfloor
        _ ≤ num / den := Nat.cast_div_le
    have hunits : (units : ℚ) < power := by exact_mod_cast hbelow
    rw [abs_of_nonneg (show 0 ≤ (num / den : ℚ) - power by linarith)] at hfirst
    rw [abs_of_nonneg (show 0 ≤ (num / den : ℚ) - units by linarith)]
    linarith

/-- Up to `2 ^ 53` units, every number of them is that of a double. -/
theorem representable_of_le {units : ℕ} (h : units ≤ 2 ^ 53) : Representable units := by
  obtain ⟨limit, hend, hlimit⟩ := unitsLimit_eq_two_pow
  have hbelow : 2 ^ 53 < 2 ^ limit := Nat.pow_lt_pow_right (by decide) (by omega)
  refine representable_iff.mpr ⟨?_, units, 0, h, by simp⟩
  rw [hend]
  exact h.trans_lt hbelow

/-- The largest number of units that a double has. -/
theorem exists_largest : ∃ largest, Representable largest ∧
    (largest / unitsPerOne : ℚ) = largestDouble ∧
    ∀ units, Representable units → units ≤ largest := by
  obtain ⟨places, hone, hplaces⟩ := unitsPerOne_eq_two_pow
  obtain ⟨limit, hend, hlimit⟩ := unitsLimit_eq_two_pow
  refine ⟨(2 ^ 53 - 1) * 2 ^ (limit - 53), representable_iff.mpr ⟨?_, _, _, Nat.sub_le _ _, rfl⟩,
    ?_, fun units hunits => ?_⟩
  · calc (2 ^ 53 - 1) * 2 ^ (limit - 53) < 2 ^ 53 * 2 ^ (limit - 53) :=
          Nat.mul_lt_mul_of_pos_right (by decide) (Nat.two_pow_pos _)
      _ = 2 ^ limit := by rw [← Nat.pow_add, Nat.add_sub_cancel' (by omega)]
      _ = unitsLimit := hend.symm
  · have hsignificand : ((2 ^ 53 - 1 : ℕ) : ℚ) = 2 ^ 53 - 1 := by norm_num
    have hpower : ((2 ^ places : ℕ) : ℚ) ≠ 0 := Nat.cast_ne_zero.mpr (Nat.two_pow_pos places).ne'
    obtain ⟨shift, hshift⟩ : ∃ shift, shift = 971 := ⟨_, rfl⟩
    rw [largestDouble, ← hshift, hone, show limit - 53 = shift + places by omega, Nat.pow_add,
      ← Nat.mul_assoc, Nat.cast_mul, mul_div_cancel_right₀ _ hpower, Nat.cast_mul, hsignificand,
      Nat.cast_pow, Nat.cast_ofNat]
  · obtain ⟨significand, hsplit⟩ := two_pow_excessBits_dvd hunits
    rcases Nat.eq_zero_or_pos units with hzero | hpos
    · exact hzero ▸ Nat.zero_le _
    have hsignificand : significand ≤ 2 ^ 53 - 1 := by
      have hdigits := div_two_pow_excessBits_lt units
      rw [Nat.pow_eq, Nat.pow_eq, Nat.div_eq_of_eq_mul_right (Nat.two_pow_pos _) hsplit] at hdigits
      exact Nat.le_sub_one_of_lt hdigits
    have hlog : units.log2 < limit := by
      rw [Nat.log2_lt hpos.ne', ← hend]
      exact hunits.1
    have hexcess : excessBits units ≤ limit - 53 := by
      unfold excessBits
      omega
    calc units = significand * 2 ^ excessBits units := by rw [Nat.mul_comm, ← hsplit]
      _ ≤ (2 ^ 53 - 1) * 2 ^ (limit - 53) :=
        Nat.mul_le_mul hsignificand (Nat.pow_le_pow_right (by decide) hexcess)

end Binary64

/-! ### Numbers that doubles have as their values -/

/-- A number that some double has as its value. -/
def IsDouble (q : ℚ) : Prop := ∃ x : Binary64, x.toRat? = some q

/-- A number is the value of a double exactly if its size is. -/
theorem isDouble_iff {q : ℚ} :
    IsDouble q ↔ ∃ units, Binary64.Representable units ∧ |q| = units / Binary64.unitsPerOne := by
  constructor
  · rintro ⟨x, hx⟩
    cases x with
    | nan => cases hx
    | infinite negative => cases hx
    | finite negative units hunits =>
      rw [Binary64.toRat?_finite, Option.some.injEq] at hx
      have hsize : |(units / Binary64.unitsPerOne : ℚ)| = units / Binary64.unitsPerOne :=
        abs_of_nonneg (by positivity)
      refine ⟨units, hunits, ?_⟩
      rw [← hx]
      split_ifs
      · rw [abs_neg, hsize]
      · exact hsize
  · rintro ⟨units, hunits, hsize⟩
    refine ⟨.finite (decide (q < 0)) units hunits, ?_⟩
    rw [Binary64.toRat?_finite, ← hsize]
    by_cases hq : q < 0
    · rw [if_pos (decide_eq_true hq), abs_of_neg hq, neg_neg]
    · rw [if_neg (by simpa using hq), abs_of_nonneg (not_lt.mp hq)]

theorem IsDouble.neg {q : ℚ} (h : IsDouble q) : IsDouble (-q) := by
  rw [isDouble_iff, abs_neg]
  exact isDouble_iff.mp h

theorem isDouble_units {units : ℕ} (h : Binary64.Representable units) :
    IsDouble (units / Binary64.unitsPerOne) :=
  isDouble_iff.mpr ⟨units, h, abs_of_nonneg (by positivity)⟩

/-- Every whole number up to `2 ^ 53` is the value of a double. -/
theorem isDouble_natCast {n : ℕ} (h : n ≤ 2 ^ 53) : IsDouble n := by
  obtain ⟨places, hone, hplaces⟩ := Binary64.unitsPerOne_eq_two_pow
  obtain ⟨limit, hend, hlimit⟩ := Binary64.unitsLimit_eq_two_pow
  have hrep : Binary64.Representable (n * Binary64.unitsPerOne) := by
    refine Binary64.representable_iff.mpr ⟨?_, n, places, h, by rw [hone]⟩
    calc n * Binary64.unitsPerOne ≤ 2 ^ 53 * 2 ^ places := by
          rw [hone]
          exact Nat.mul_le_mul_right _ h
      _ = 2 ^ (53 + places) := (Nat.pow_add 2 53 places).symm
      _ < 2 ^ limit := Nat.pow_lt_pow_right (by decide) (by omega)
      _ = Binary64.unitsLimit := hend.symm
  have hpos : (Binary64.unitsPerOne : ℚ) ≠ 0 := Nat.cast_ne_zero.mpr Binary64.unitsPerOne_pos.ne'
  have hvalue := isDouble_units hrep
  rwa [Nat.cast_mul, mul_div_cancel_right₀ _ hpos] at hvalue

/-- No double is past the largest one. -/
theorem IsDouble.abs_le {q : ℚ} (h : IsDouble q) : |q| ≤ largestDouble := by
  obtain ⟨units, hunits, hsize⟩ := isDouble_iff.mp h
  obtain ⟨largest, -, hvalue, hlargest⟩ := Binary64.exists_largest
  rw [hsize, ← hvalue]
  exact div_le_div_of_nonneg_right (by exact_mod_cast hlargest units hunits) (Nat.cast_nonneg _)

theorem isDouble_zero : IsDouble 0 := by
  simpa using isDouble_natCast (Nat.zero_le (2 ^ 53))

/-- Two doubles are a unit apart at least. -/
theorem IsDouble.one_le_abs_sub_mul {p q : ℚ} (hp : IsDouble p) (hq : IsDouble q) (hne : p ≠ q) :
    1 ≤ |p - q| * Binary64.unitsPerOne := by
  have hone : (0 : ℚ) < Binary64.unitsPerOne := Nat.cast_pos.mpr Binary64.unitsPerOne_pos
  obtain ⟨x, hx⟩ := hp
  obtain ⟨y, hy⟩ := hq
  rw [Binary64.toRat?, Option.map_eq_some_iff] at hx hy
  obtain ⟨m, -, rfl⟩ := hx
  obtain ⟨n, -, rfl⟩ := hy
  have hunits : m ≠ n := fun hsame => hne (by rw [hsame])
  rw [← sub_div, abs_div, abs_of_pos hone, div_mul_cancel₀ _ hone.ne']
  exact_mod_cast Int.one_le_abs (sub_ne_zero.mpr hunits)

/-- The value of a double that is as near to a number as any. There may be two of them. -/
structure IsNearestDouble (exact near : ℚ) : Prop where
  /-- It is the value of a double. -/
  isDouble : IsDouble near
  /-- No double is nearer. -/
  nearest : ∀ other, IsDouble other → |exact - near| ≤ |exact - other|

namespace IsNearestDouble

variable {exact near : ℚ}

/-- Numbers on either side of zero are rounded alike. -/
theorem neg (h : IsNearestDouble exact near) : IsNearestDouble (-exact) (-near) := by
  have hdistance (a b : ℚ) : |(-a) - b| = |a - -b| := by
    rw [← abs_neg]
    ring_nf
  refine ⟨h.isDouble.neg, fun other hother => ?_⟩
  rw [hdistance, hdistance, neg_neg]
  exact h.nearest _ hother.neg

/-- The value of a double is the only one nearest to itself. -/
theorem eq_of_isDouble (h : IsNearestDouble exact near) (hexact : IsDouble exact) :
    near = exact := by
  have hzero := h.nearest exact hexact
  rw [sub_self, abs_zero] at hzero
  exact (sub_eq_zero.mp (abs_nonpos_iff.mp hzero)).symm

/-- A ratio of units that is not past every double is rounded to the nearest one. -/
theorem of_units {num den : ℕ} (hden : 0 < den)
    (hlimit : Binary64.nearestUnits num den < Binary64.unitsLimit) :
    IsNearestDouble (num / den / Binary64.unitsPerOne)
      (Binary64.nearestUnits num den / Binary64.unitsPerOne) := by
  have hone : (0 : ℚ) < Binary64.unitsPerOne := Nat.cast_pos.mpr Binary64.unitsPerOne_pos
  refine ⟨isDouble_units (Binary64.representable_nearestUnits hlimit), fun other hother => ?_⟩
  obtain ⟨units, hunits, hsize⟩ := isDouble_iff.mp hother
  have hnearest : |(num / den : ℚ) - Binary64.nearestUnits num den| ≤ |(num / den : ℚ) - units| :=
    Binary64.abs_sub_nearestUnits_le hden hunits
  have hexact : |(num / den / Binary64.unitsPerOne : ℚ)| = num / den / Binary64.unitsPerOne :=
    abs_of_nonneg (div_nonneg (div_nonneg num.cast_nonneg den.cast_nonneg) hone.le)
  calc |(num / den / Binary64.unitsPerOne : ℚ) -
        Binary64.nearestUnits num den / Binary64.unitsPerOne|
      = |(num / den : ℚ) - Binary64.nearestUnits num den| / Binary64.unitsPerOne := by
        rw [← sub_div, abs_div, abs_of_pos hone]
    _ ≤ |(num / den : ℚ) - units| / Binary64.unitsPerOne :=
        div_le_div_of_nonneg_right hnearest hone.le
    _ = |(num / den / Binary64.unitsPerOne : ℚ) - units / Binary64.unitsPerOne| := by
        rw [← sub_div, abs_div, abs_of_pos hone]
    _ = |(|(num / den / Binary64.unitsPerOne : ℚ)| - |other|)| := by rw [hexact, hsize]
    _ ≤ |(num / den / Binary64.unitsPerOne : ℚ) - other| := abs_abs_sub_abs_le _ _

/-- From a number of less than `2 ^ 53` units the nearest double is at most half a unit away. -/
theorem abs_sub_le_half_unit (h : IsNearestDouble exact near) (hnonneg : 0 ≤ exact)
    (hsmall : exact * Binary64.unitsPerOne < 2 ^ 53) :
    |exact - near| * Binary64.unitsPerOne ≤ 1 / 2 := by
  have hone : (0 : ℚ) < Binary64.unitsPerOne := Nat.cast_pos.mpr Binary64.unitsPerOne_pos
  have hlow := sub_half_lt_round (exact * Binary64.unitsPerOne)
  have hhigh := round_le_add_half (exact * Binary64.unitsPerOne)
  have hround := abs_sub_round (exact * Binary64.unitsPerOne)
  have hscaled : 0 ≤ exact * Binary64.unitsPerOne := mul_nonneg hnonneg hone.le
  generalize round (exact * Binary64.unitsPerOne) = rounded at *
  have hfrom : -1 < rounded := by
    have : (-1 : ℚ) < rounded := by linarith
    exact_mod_cast this
  have hto : rounded < 2 ^ 53 + 1 := by
    have : (rounded : ℚ) < 2 ^ 53 + 1 := by linarith
    exact_mod_cast this
  obtain ⟨units, rfl⟩ := Int.eq_ofNat_of_zero_le (show 0 ≤ rounded by omega)
  rw [Int.cast_natCast] at hround
  have hunits : units ≤ 2 ^ 53 := by omega
  have hdistance := h.nearest _ (isDouble_units (Binary64.representable_of_le hunits))
  calc |exact - near| * Binary64.unitsPerOne
      ≤ |exact - units / Binary64.unitsPerOne| * Binary64.unitsPerOne :=
        mul_le_mul_of_nonneg_right hdistance hone.le
    _ = |exact * Binary64.unitsPerOne - units| := by
        rw [← abs_of_pos hone, ← abs_mul, abs_of_pos hone, sub_mul, div_mul_cancel₀ _ hone.ne']
    _ ≤ 1 / 2 := hround

/-- From a number with enough units the nearest double is at most a small part of the number away,
unless it is past every double. -/
theorem isWithin (h : IsNearestDouble exact near)
    (hlarge : 2 * 10 ^ 14 ≤ exact * Binary64.unitsPerOne)
    (hhigh : exact ≤ largestDouble) : IsWithin (1 / (4 * 10 ^ 14)) exact near := by
  obtain ⟨largest, hlargest, hvalue, -⟩ := Binary64.exists_largest
  rw [← hvalue] at hhigh
  have hone : (0 : ℚ) < Binary64.unitsPerOne := Nat.cast_pos.mpr Binary64.unitsPerOne_pos
  have hpos : 0 < exact := pos_of_mul_pos_left (lt_of_lt_of_le (by norm_num) hlarge) hone.le
  rw [IsWithin, abs_sub_comm]
  rcases lt_or_ge (exact * Binary64.unitsPerOne) (2 ^ 53) with hsmall | hprecise
  · have hhalf := h.abs_sub_le_half_unit hpos.le hsmall
    refine le_of_mul_le_mul_right ?_ hone
    linarith
  · obtain ⟨num, den, hden, hratio⟩ : ∃ num den : ℕ, 0 < den ∧
        exact = num / den / Binary64.unitsPerOne := by
      refine ⟨(exact * Binary64.unitsPerOne).num.toNat, (exact * Binary64.unitsPerOne).den,
        Rat.den_pos _, ?_⟩
      have hnum : (exact * Binary64.unitsPerOne).num.toNat =
          ((exact * Binary64.unitsPerOne).num : ℚ) := by
        exact_mod_cast Int.toNat_of_nonneg (Rat.num_nonneg.mpr (mul_pos hpos hone).le)
      rw [hnum, Rat.num_div_den, mul_div_cancel_right₀ _ hone.ne']
    have hden' : (0 : ℚ) < den := Nat.cast_pos.mpr hden
    rw [hratio, div_mul_cancel₀ _ hone.ne', le_div_iff₀ hden'] at hprecise
    rw [hratio, div_le_div_iff_of_pos_right hone, div_le_iff₀ hden'] at hhigh
    have hround : Binary64.nearestUnits num den < Binary64.unitsLimit :=
      (Binary64.nearestUnits_le hlargest hden (by exact_mod_cast hhigh)).trans_lt hlargest.1
    have hprecise' : 2 ^ 52 * den ≤ num := by
      have : 2 ^ 53 * den ≤ num := by exact_mod_cast hprecise
      omega
    have hnear := (Binary64.isWithin_nearestUnits hden hprecise').div hone
    rw [← hratio, IsWithin, abs_sub_comm] at hnear
    have hdistance := h.nearest _
      (isDouble_units (Binary64.representable_nearestUnits hround))
    calc |exact - near| ≤ 1 / 2 ^ 53 * exact := hdistance.trans hnear
      _ ≤ 1 / (4 * 10 ^ 14) * exact := mul_le_mul_of_nonneg_right (by norm_num) hpos.le

end IsNearestDouble

/-! ### Reading decimals -/

namespace Decimal

/-- A decimal that is neither too near to zero nor past every double is rounded as a ratio. -/
theorem exists_toBinary64_eq_ofUnits (negative : Bool) {d : Decimal}
    (hlow : d.coefficient = 0 ∨ (10 : ℚ) ^ (-400 : ℤ) ≤ d.value)
    (hhigh : d.value ≤ largestDouble) :
    ∃ num den : ℕ, 0 < den ∧ d.value = num / den / Binary64.unitsPerOne ∧
      d.toBinary64 negative = .ofUnits negative num den := by
  rcases Nat.eq_zero_or_pos d.coefficient with hzero | hpos
  · refine ⟨0, 1, Nat.one_pos, ?_, ?_⟩
    · rw [value, hzero, Nat.cast_zero, zero_mul, zero_div, zero_div]
    · unfold toBinary64
      dsimp only
      rw [if_pos (.inl hzero)]
  · have hone : (Binary64.unitsPerOne : ℚ) ≠ 0 := Nat.cast_ne_zero.mpr Binary64.unitsPerOne_pos.ne'
    obtain ⟨hfirst, hlast⟩ := value_bounds hpos
    have hbelow : (-400 : ℤ) < digitCount d.coefficient + d.exponent :=
      (zpow_lt_zpow_iff_right₀ (by norm_num)).mp ((hlow.resolve_left hpos.ne').trans_lt hlast)
    have habove : (digitCount d.coefficient + d.exponent - 1 : ℤ) < 309 :=
      (zpow_lt_zpow_iff_right₀ (by norm_num)).mp ((hfirst.trans hhigh).trans_lt largestDouble_lt)
    refine ⟨d.num * Binary64.unitsPerOne, d.den, d.den_pos, ?_,
      toBinary64_eq_ofRatio hpos (by omega) (by omega)⟩
    rw [Nat.cast_mul, mul_div_right_comm, mul_div_cancel_right₀ _ hone, d.num_div_den]

/-- Such a decimal is read as the nearest double. -/
theorem exists_nearest_toBinary64 (negative : Bool) {d : Decimal}
    (hlow : d.coefficient = 0 ∨ (10 : ℚ) ^ (-400 : ℤ) ≤ d.value)
    (hhigh : d.value ≤ largestDouble) :
    ∃ near, (d.toBinary64 negative).toRat? = some near ∧
      IsNearestDouble (if negative then -d.value else d.value) near := by
  obtain ⟨num, den, hden, hvalue, hread⟩ := exists_toBinary64_eq_ofUnits negative hlow hhigh
  obtain ⟨largest, hlargest, hlast, -⟩ := Binary64.exists_largest
  have hone : (0 : ℚ) < Binary64.unitsPerOne := Nat.cast_pos.mpr Binary64.unitsPerOne_pos
  have hden' : (0 : ℚ) < den := Nat.cast_pos.mpr hden
  have hround : Binary64.nearestUnits num den < Binary64.unitsLimit := by
    refine (Binary64.nearestUnits_le hlargest hden ?_).trans_lt hlargest.1
    rw [← hlast, hvalue, div_le_div_iff_of_pos_right hone, div_le_iff₀ hden'] at hhigh
    exact_mod_cast hhigh
  have hnearest := IsNearestDouble.of_units hden hround
  rw [hread, Binary64.ofUnits, dif_pos hround, hvalue]
  refine ⟨_, Binary64.toRat?_finite negative _, ?_⟩
  cases negative with
  | false => exact hnearest
  | true => exact hnearest.neg

end Decimal

end StyleTokens
