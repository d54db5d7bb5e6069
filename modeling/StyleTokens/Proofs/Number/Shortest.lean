import Mathlib.Tactic.ByContra
import StyleTokens.Number.Shortest
import StyleTokens.Proofs.Number.Decimal

/-!
# Shortest decimals are read as what they were made from

Every candidate for the shortest decimal of a double rounds to that double, and so does the full
expansion behind them. What rounds to a finite double other than zero lies within the bounds past
which decimals are not rounded, so the shortest decimal is read as the double that it was made
from.
-/

namespace StyleTokens

namespace Binary64

variable {units : Nat} {d : Decimal}

theorem readsBack_iff : readsBack units d = true ↔ nearestUnits (d.num * unitsPerOne) d.den = units := by
  rw [readsBack, beq_iff_eq]

/-- What rounds to something has digits. -/
theorem coefficient_pos_of_readsBack (hunits : 0 < units) (h : readsBack units d = true) :
    0 < d.coefficient := by
  refine Nat.pos_of_ne_zero fun hzero => ?_
  have hnum : d.num = 0 := by rw [Decimal.num_eq, hzero, Nat.zero_mul]
  rw [readsBack_iff, hnum, Nat.zero_mul,
    nearestUnits_eq_zero (by simpa using d.den_pos)] at h
  omega

/-- A decimal that begins far behind the point is small. -/
theorem two_mul_num_lt_den {places k : Nat} (hplaces : places + 1 ≤ 3 * k)
    (h : (digitCount d.coefficient : Int) + d.exponent < -k) :
    2 * (d.num * 2 ^ places) < d.den := by
  have hcount : d.coefficient < 10 ^ digitCount d.coefficient :=
    (digitCount_le_iff (digitCount_pos _)).mp (Nat.le_refl _)
  have hnum : d.num = d.coefficient := by
    rw [Decimal.num_eq, show d.exponent.toNat = 0 by omega, Nat.pow_zero, Nat.mul_one]
  calc 2 * (d.num * 2 ^ places) = d.coefficient * 2 ^ (places + 1) := by
        rw [hnum, Nat.pow_succ]
        ac_rfl
    _ ≤ d.coefficient * 10 ^ k := Nat.mul_le_mul_left _ (two_pow_le_ten_pow hplaces)
    _ < 10 ^ digitCount d.coefficient * 10 ^ k :=
      Nat.mul_lt_mul_of_pos_right hcount (Nat.pow_pos (by decide))
    _ = 10 ^ (digitCount d.coefficient + k) := (Nat.pow_add 10 _ k).symm
    _ ≤ 10 ^ (-d.exponent).toNat := Nat.pow_le_pow_right (by decide) (by omega)
    _ = d.den := d.den_eq.symm

/-- A decimal with many digits before the point is large. -/
theorem ten_pow_mul_den_le_num {k : Nat} (hpos : 0 < d.coefficient)
    (h : (k : Int) < (digitCount d.coefficient : Int) + d.exponent) : 10 ^ k * d.den ≤ d.num :=
  calc 10 ^ k * d.den = 10 ^ (k + (-d.exponent).toNat) := by rw [Nat.pow_add, d.den_eq]
    _ ≤ 10 ^ (digitCount d.coefficient - 1 + d.exponent.toNat) :=
      Nat.pow_le_pow_right (by decide) (by omega)
    _ = 10 ^ (digitCount d.coefficient - 1) * 10 ^ d.exponent.toNat := Nat.pow_add 10 _ _
    _ ≤ d.coefficient * 10 ^ d.exponent.toNat :=
      Nat.mul_le_mul_right _ (ten_pow_le_of_pos hpos)
    _ = d.num := d.num_eq.symm

/-- A decimal with many digits before the point is large in units, too. -/
theorem two_mul_two_pow_le_div {limit places k : Nat} (hpos : 0 < d.coefficient)
    (hlimit : limit + 1 ≤ 3 * k + places)
    (h : (k : Int) < (digitCount d.coefficient : Int) + d.exponent) :
    2 * 2 ^ limit ≤ d.num * 2 ^ places / d.den := by
  rw [Nat.le_div_iff_mul_le d.den_pos]
  calc 2 * 2 ^ limit * d.den = 2 ^ (limit + 1) * d.den := by rw [Nat.pow_succ, Nat.mul_comm 2]
    _ ≤ 2 ^ (3 * k + places) * d.den :=
      Nat.mul_le_mul_right _ (Nat.pow_le_pow_right (by decide) hlimit)
    _ = 2 ^ (3 * k) * d.den * 2 ^ places := by
        rw [Nat.pow_add]
        ac_rfl
    _ ≤ 10 ^ k * d.den * 2 ^ places :=
      Nat.mul_le_mul_right _ (Nat.mul_le_mul_right _ (two_pow_le_ten_pow (Nat.le_refl _)))
    _ ≤ d.num * 2 ^ places := Nat.mul_le_mul_right _ (ten_pow_mul_den_le_num hpos h)

/-- What rounds to something does not begin too far behind the point. -/
theorem le_top_of_readsBack (hunits : 0 < units) (h : readsBack units d = true) :
    -400 ≤ (digitCount d.coefficient : Int) + d.exponent := by
  obtain ⟨places, hone, hplaces⟩ := unitsPerOne_eq_two_pow
  by_contra hlow
  have hsmall : 2 * (d.num * 2 ^ places) < d.den :=
    two_mul_num_lt_den (show places + 1 ≤ 3 * 400 by omega) (by omega)
  rw [readsBack_iff, hone, nearestUnits_eq_zero hsmall] at h
  omega

/-- What rounds to a finite double does not begin too far before the point. -/
theorem top_le_of_readsBack (hpos : 0 < d.coefficient) (hbelow : units < unitsLimit)
    (h : readsBack units d = true) : (digitCount d.coefficient : Int) + d.exponent ≤ 400 := by
  obtain ⟨places, hone, hplaces⟩ := unitsPerOne_eq_two_pow
  obtain ⟨limit, hend, hlimit⟩ := unitsLimit_eq_two_pow
  by_contra hhigh
  have hround := div_le_two_mul_nearestUnits (d.num * unitsPerOne) d.den
  rw [readsBack_iff.mp h, hone] at hround
  have hlarge : 2 * 2 ^ limit ≤ d.num * 2 ^ places / d.den :=
    two_mul_two_pow_le_div hpos (show limit + 1 ≤ 3 * 400 + places by omega) (by omega)
  rw [hend] at hbelow
  omega

/-- A decimal that rounds to a number of units is read as the double of those units. -/
theorem toBinary64_of_readsBack (negative : Bool) (hunits : 0 < units)
    (hrep : Representable units) (h : readsBack units d = true) :
    d.toBinary64 negative = .finite negative units hrep := by
  have hpos := coefficient_pos_of_readsBack hunits h
  rw [Decimal.toBinary64_eq_ofRatio hpos (le_top_of_readsBack hunits h)
    (top_le_of_readsBack hpos hrep.1 h)]
  unfold ofRatio
  exact ofUnits_of_representable negative hrep (readsBack_iff.mp h)

/-- The nearer of two decimals is one of them. -/
theorem nearer_eq_or (units : Nat) (below above : Decimal) :
    nearer units below above = below ∨ nearer units below above = above := by
  unfold nearer
  dsimp only
  split_ifs <;> simp

/-- The decimal found for a number of digits reads back. -/
theorem readsBack_of_shortestWith? {places : Nat} (h : shortestWith? units places = some d) :
    readsBack units d = true := by
  have hnearer := nearer_eq_or units (neighbours units places).1 (neighbours units places).2
  unfold shortestWith? at h
  dsimp only at h
  split_ifs at h with hbelow habove habove
  · rw [← Option.some.inj h]
    rcases hnearer with heq | heq
    · rw [heq]
      exact hbelow
    · rw [heq]
      exact habove
  · rw [← Option.some.inj h]
    exact hbelow
  · rw [← Option.some.inj h]
    exact habove

/-- A number of small binary units, written out in decimal. -/
private theorem expansion_ratio (units places : Nat) :
    (Decimal.mk (units * 5 ^ places) (-(places : Int))).num * 2 ^ places * 1 =
      units * (Decimal.mk (units * 5 ^ places) (-(places : Int))).den := by
  simp only [Decimal.num_eq, Decimal.den_eq, Int.toNat_neg_natCast, Int.neg_neg, Int.toNat_natCast]
  calc units * 5 ^ places * 10 ^ 0 * 2 ^ places * 1 = units * (5 ^ places * 2 ^ places) := by
        rw [Nat.pow_zero, Nat.mul_one, Nat.mul_one, Nat.mul_assoc]
    _ = units * 10 ^ places := by rw [← Nat.mul_pow]

/-- Units written out in full read back. -/
theorem readsBack_exactDecimal (hrep : Representable units) :
    readsBack units (exactDecimal units) = true := by
  obtain ⟨places, hone, hplaces⟩ := unitsPerOne_eq_two_pow
  have hexact : exactDecimal units = ⟨units * 5 ^ places, -(places : Int)⟩ := by
    change Decimal.mk (units * Nat.pow 5 1074) (-((1074 : Nat) : Int)) = _
    rw [← hplaces]
    rfl
  rw [readsBack_iff, hexact, hone]
  exact Eq.trans (nearestUnits_congr (Decimal.den_pos _) Nat.one_pos (expansion_ratio units places))
    (nearestUnits_one hrep)

/-- The decimal that is cut down to the shortest one reads back. -/
theorem exists_readsBack_shortest (hrep : Representable units) :
    ∃ d, readsBack units d = true ∧ shortest units = d.trimmed := by
  unfold shortest
  cases hfound : (List.range 17).findSome? fun k => shortestWith? units (k + 1) with
  | none => exact ⟨_, readsBack_exactDecimal hrep, rfl⟩
  | some d =>
    obtain ⟨k, -, hk⟩ := List.exists_of_findSome?_eq_some hfound
    exact ⟨d, readsBack_of_shortestWith? hk, rfl⟩

/-- The shortest decimal of a double is read as that double. -/
theorem toBinary64_shortest (negative : Bool) (hunits : 0 < units) (hrep : Representable units) :
    (shortest units).toBinary64 negative = .finite negative units hrep := by
  obtain ⟨d, hback, hshortest⟩ := exists_readsBack_shortest hrep
  rw [hshortest, Decimal.toBinary64_trimmed negative (coefficient_pos_of_readsBack hunits hback)]
  exact toBinary64_of_readsBack negative hunits hrep hback

/-- The shortest decimal of a double other than zero has digits. -/
theorem coefficient_shortest_pos (hunits : 0 < units) (hrep : Representable units) :
    0 < (shortest units).coefficient := by
  obtain ⟨d, hback, hshortest⟩ := exists_readsBack_shortest hrep
  obtain ⟨k, hcoefficient, -⟩ :=
    Decimal.exists_shift_trimmed (coefficient_pos_of_readsBack hunits hback)
  have hpos := coefficient_pos_of_readsBack hunits hback
  rw [hcoefficient] at hpos
  rw [hshortest]
  exact Nat.pos_of_mul_pos_left hpos

end Binary64

end StyleTokens
