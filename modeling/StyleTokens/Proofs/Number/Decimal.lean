import Mathlib.Algebra.GroupWithZero.Nat
import Mathlib.Tactic.ByContra
import Mathlib.Tactic.SplitIfs
import StyleTokens.Proofs.Number.Binary64

/-!
# Decimals of one value

Zeros behind the digits of a decimal, paid for by its exponent, change neither its value nor the
double that it is read as. A decimal that rounds to a finite double other than zero is far from
both of the bounds past which decimals are not rounded at all.
-/

namespace StyleTokens

/-- As many zeros as are put behind a number, as many digits more it has. -/
theorem digitCount_shift {c : Nat} (hc : 0 < c) (k : Nat) :
    digitCount (10 ^ k * c) = k + digitCount c := by
  have hpower : 0 < 10 ^ k := Nat.pow_pos (by decide)
  apply Nat.le_antisymm
  · have hbelow : c < 10 ^ digitCount c := (digitCount_le_iff (digitCount_pos c)).mp (Nat.le_refl _)
    refine (digitCount_le_iff (by have := digitCount_pos c; omega)).mpr ?_
    rw [Nat.pow_add]
    exact Nat.mul_lt_mul_of_pos_left hbelow hpower
  · have hbelow : 10 ^ k * c < 10 ^ digitCount (10 ^ k * c) :=
      (digitCount_le_iff (digitCount_pos _)).mp (Nat.le_refl _)
    have hk : k < digitCount (10 ^ k * c) := by
      refine (Nat.pow_lt_pow_iff_right (show 1 < 10 by decide)).mp ?_
      exact Nat.lt_of_le_of_lt (Nat.le_mul_of_pos_right _ hc) hbelow
    have hsplit : 10 ^ digitCount (10 ^ k * c) = 10 ^ k * 10 ^ (digitCount (10 ^ k * c) - k) := by
      rw [← Nat.pow_add]
      congr 1
      omega
    have hrest : c < 10 ^ (digitCount (10 ^ k * c) - k) := by
      rw [hsplit] at hbelow
      exact Nat.lt_of_mul_lt_mul_left hbelow
    have := (digitCount_le_iff (by omega)).mpr hrest
    omega

/-- A positive number is at least the power of ten of its first digit. -/
theorem ten_pow_le_of_pos {c : Nat} (hc : 0 < c) : 10 ^ (digitCount c - 1) ≤ c := by
  rcases Nat.eq_zero_or_pos (digitCount c - 1) with hone | hmore
  · rw [hone]
    exact hc
  · refine Nat.le_of_not_lt fun hbelow => ?_
    have := (digitCount_le_iff hmore).mpr hbelow
    omega

/-- Powers of two stay below powers of ten of a third of the exponent. -/
theorem two_pow_le_ten_pow {a b : Nat} (h : a ≤ 3 * b) : 2 ^ a ≤ 10 ^ b :=
  calc 2 ^ a ≤ 2 ^ (3 * b) := Nat.pow_le_pow_right (by decide) h
    _ = (2 ^ 3) ^ b := Nat.pow_mul 2 3 b
    _ ≤ 10 ^ b := Nat.pow_le_pow_left (by decide) b

namespace Binary64

/-- Ratios of one value are rounded alike. -/
theorem nearestUnits_congr {num den num' den' : Nat} (hden : 0 < den) (hden' : 0 < den')
    (h : num * den' = num' * den) : nearestUnits num den = nearestUnits num' den' := by
  rw [← nearestUnits_mul_right num den hden', ← nearestUnits_mul_right num' den' hden, h,
    Nat.mul_comm den den']

/-- The double made from a ratio depends on what the ratio is rounded to. -/
theorem ofUnits_congr (negative : Bool) {num den num' den' : Nat}
    (h : nearestUnits num den = nearestUnits num' den') :
    ofUnits negative num den = ofUnits negative num' den' := by
  unfold ofUnits
  simp only [h]

/-- What is less than half a unit is rounded to nothing. -/
theorem nearestUnits_eq_zero {num den : Nat} (h : 2 * num < den) : nearestUnits num den = 0 := by
  have hquotient : num / den = 0 := Nat.div_eq_of_lt (by omega)
  have hround : roundHalfEven num den = 0 := by
    unfold roundHalfEven
    rw [Nat.mod_eq_of_lt (by omega), if_pos h, hquotient]
  rw [nearestUnits_eq, hquotient]
  simpa [excessBits] using hround

/-- A number is less than twice what is left of it after dividing and multiplying by a smaller one,
both rounded up. -/
private theorem le_two_mul_of_floor_le {n step rounded : Nat} (hstep : 0 < step) (hle : step ≤ n)
    (hfloor : n / step ≤ rounded) : n ≤ 2 * (rounded * step) := by
  have hone : 1 ≤ n / step := (Nat.one_le_div_iff hstep).mpr hle
  calc n ≤ step * (n / step + 1) := Nat.le_of_lt (Nat.lt_mul_div_succ n hstep)
    _ ≤ step * (2 * rounded) := Nat.mul_le_mul_left step (by omega)
    _ = 2 * (rounded * step) := by ac_rfl

/-- Rounding at most halves a ratio. -/
theorem div_le_two_mul_nearestUnits (num den : Nat) : num / den ≤ 2 * nearestUnits num den := by
  rcases Nat.eq_zero_or_pos (num / den) with hzero | hpos
  · omega
  have hstep : 2 ^ excessBits (num / den) ≤ num / den := by
    refine Nat.le_trans (Nat.pow_le_pow_right (by decide) ?_) (Nat.log2_self_le (by omega))
    unfold excessBits
    omega
  have hfloor : num / den / 2 ^ excessBits (num / den) ≤
      roundHalfEven num (den * 2 ^ excessBits (num / den)) := by
    rw [Nat.div_div_eq_div_mul]
    generalize den * 2 ^ excessBits (num / den) = whole
    unfold roundHalfEven
    split_ifs
    · exact Nat.le_refl _
    · exact Nat.le_succ _
    · exact Nat.le_add_right _ _
  rw [nearestUnits_eq]
  exact le_two_mul_of_floor_le (Nat.two_pow_pos _) hstep hfloor

/-- One is a power of two of units. -/
theorem unitsPerOne_eq_two_pow : ∃ places, unitsPerOne = 2 ^ places ∧ places = 1074 := by
  refine ⟨_, ?_, rfl⟩
  unfold unitsPerOne
  generalize 1074 = places
  rfl

/-- Every finite double has fewer units than a power of two. -/
theorem unitsLimit_eq_two_pow : ∃ limit, unitsLimit = 2 ^ limit ∧ limit = 2098 := by
  refine ⟨_, ?_, rfl⟩
  unfold unitsLimit
  generalize 2098 = limit
  rfl

/-- A whole number that is not past every finite double has few digits. -/
theorem digitCount_le_of_isFinite {n : Int} (h : (ofInt n).isFinite = true) :
    digitCount n.natAbs ≤ 342 := by
  obtain ⟨places, hone, hplaces⟩ := unitsPerOne_eq_two_pow
  obtain ⟨limit, hend, hlimit⟩ := unitsLimit_eq_two_pow
  have hround : nearestUnits (n.natAbs * unitsPerOne) 1 < unitsLimit := by
    by_contra hbeyond
    unfold ofInt ofRatio ofUnits at h
    rw [dif_neg hbeyond] at h
    cases h
  have hbound := div_le_two_mul_nearestUnits (n.natAbs * unitsPerOne) 1
  rw [Nat.div_one] at hbound
  refine (digitCount_le_iff (by decide)).mpr (Nat.lt_of_lt_of_le ?_
    (two_pow_le_ten_pow (show limit + 1 - places ≤ 3 * 342 by omega)))
  refine Nat.lt_of_mul_lt_mul_right (a := 2 ^ places) ?_
  rw [← Nat.pow_add, show limit + 1 - places + places = limit + 1 by omega, Nat.pow_succ, ← hone,
    ← hend]
  omega

end Binary64

namespace Decimal

theorem num_eq (d : Decimal) : d.num = d.coefficient * 10 ^ d.exponent.toNat := rfl

theorem den_eq (d : Decimal) : d.den = 10 ^ (-d.exponent).toNat := rfl

theorem den_pos (d : Decimal) : 0 < d.den := by
  rw [den_eq]
  exact Nat.pow_pos (by decide)

/-- Zeros behind the digits, paid for by the exponent, leave the ratio as it is. -/
theorem num_shift_mul_den (c k : Nat) (e : Int) :
    (mk (10 ^ k * c) (e - k)).num * (mk c e).den = (mk c e).num * (mk (10 ^ k * c) (e - k)).den := by
  simp only [num_eq, den_eq]
  have hpowers : k + (e - k).toNat + (-e).toNat = e.toNat + (-(e - k)).toNat := by omega
  calc 10 ^ k * c * 10 ^ (e - k).toNat * 10 ^ (-e).toNat
      = c * 10 ^ (k + (e - k).toNat + (-e).toNat) := by
        rw [Nat.pow_add, Nat.pow_add]
        ac_rfl
    _ = c * 10 ^ e.toNat * 10 ^ (-(e - k)).toNat := by
        rw [hpowers, Nat.pow_add]
        ac_rfl

/-- Zeros behind the digits, paid for by the exponent, do not change the double that a decimal is
read as. -/
theorem toBinary64_shift (negative : Bool) (c k : Nat) (e : Int) :
    (mk (10 ^ k * c) (e - k)).toBinary64 negative = (mk c e).toBinary64 negative := by
  rcases Nat.eq_zero_or_pos c with rfl | hc
  · simp [toBinary64]
  have hpower : 0 < 10 ^ k := Nat.pow_pos (by decide)
  have hne : 10 ^ k * c ≠ 0 := Nat.ne_of_gt (Nat.mul_pos hpower hc)
  have htop : ((digitCount (10 ^ k * c) : Nat) : Int) + (e - k) = (digitCount c : Int) + e := by
    rw [digitCount_shift hc]
    omega
  have hround : Binary64.ofRatio negative (mk (10 ^ k * c) (e - k)).num (mk (10 ^ k * c) (e - k)).den
      = Binary64.ofRatio negative (mk c e).num (mk c e).den := by
    refine Binary64.ofUnits_congr negative (Binary64.nearestUnits_congr (den_pos _) (den_pos _) ?_)
    rw [Nat.mul_right_comm, num_shift_mul_den, Nat.mul_right_comm]
  unfold toBinary64
  simp only [htop, hround, hne, Nat.ne_of_gt hc, false_or]

/-- Digits end with the zeros that are dropped from them. -/
theorem dropped_zeros (ds : List Char) :
    ds = (ds.reverse.dropWhile (· == '0')).reverse ++
      List.replicate (ds.length - (ds.reverse.dropWhile (· == '0')).reverse.length) '0' := by
  have hsplit := List.takeWhile_append_dropWhile (p := (· == '0')) (l := ds.reverse)
  have hzeros : ds.reverse.takeWhile (· == '0') =
      List.replicate (ds.reverse.takeWhile (· == '0')).length '0' := by
    refine List.eq_replicate_of_mem fun c hc => ?_
    simpa using List.all_eq_true.mp List.all_takeWhile c hc
  have hlength := congrArg List.length hsplit
  rw [List.length_append, List.length_reverse] at hlength
  rw [List.length_reverse, show ds.length - (ds.reverse.dropWhile (· == '0')).length =
    (ds.reverse.takeWhile (· == '0')).length by omega]
  calc ds = (ds.reverse.takeWhile (· == '0') ++ ds.reverse.dropWhile (· == '0')).reverse := by
        rw [hsplit, List.reverse_reverse]
    _ = _ := by
        rw [List.reverse_append, hzeros, List.reverse_replicate, List.length_replicate]

/-- A decimal without the zeros behind its digits is one of the same value. -/
theorem exists_shift_trimmed {d : Decimal} (h : 0 < d.coefficient) :
    ∃ k : Nat, d.coefficient = 10 ^ k * d.trimmed.coefficient ∧
      d.exponent = d.trimmed.exponent - k := by
  have hdigits := dropped_zeros (digits d.coefficient)
  unfold trimmed
  dsimp only
  generalize (((digits d.coefficient).reverse).dropWhile (· == '0')).reverse = kept at *
  have hvalue : d.coefficient = 10 ^ ((digits d.coefficient).length - kept.length) * ofDigits kept :=
    calc d.coefficient = ofDigits (digits d.coefficient) := (ofDigits_digits _).symm
      _ = _ := by
        rw [← ofDigits_append_replicate kept, ← hdigits]
  have hkept : kept ≠ [] := by
    rintro rfl
    simp only [ofDigits, List.foldl_nil, Nat.mul_zero] at hvalue
    omega
  refine ⟨(digits d.coefficient).length - kept.length, ?_, ?_⟩
  · simpa [hkept] using hvalue
  · simp [hkept]

/-- A decimal and the one without the zeros behind its digits are read as the same double. -/
theorem toBinary64_trimmed (negative : Bool) {d : Decimal} (h : 0 < d.coefficient) :
    d.trimmed.toBinary64 negative = d.toBinary64 negative := by
  obtain ⟨k, hcoefficient, hexponent⟩ := exists_shift_trimmed h
  have hshift := toBinary64_shift negative d.trimmed.coefficient k d.trimmed.exponent
  rw [← hcoefficient, ← hexponent] at hshift
  exact hshift.symm

/-- The double of a decimal that is not past the bounds is the one it rounds to. -/
theorem toBinary64_eq_ofRatio {negative : Bool} {d : Decimal} (h : 0 < d.coefficient)
    (hlow : -400 ≤ (digitCount d.coefficient : Int) + d.exponent)
    (hhigh : (digitCount d.coefficient : Int) + d.exponent ≤ 400) :
    d.toBinary64 negative = .ofRatio negative d.num d.den := by
  unfold toBinary64
  dsimp only
  rw [if_neg (by omega), if_neg (by omega)]

end Decimal

end StyleTokens
