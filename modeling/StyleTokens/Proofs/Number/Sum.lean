import StyleTokens.Proofs.Number.Binary64

/-!
# Sums of whole numbers as doubles

A whole number that is added to a double is rounded first, and the sum is rounded again. As long as
the double is a whole number below `2 ^ 53`, this cannot be told from adding exactly by comparing the
sum with another such number: where rounding sets in, the sum is out of reach on either side.
-/

namespace StyleTokens.Binary64

/-- Where a number of units stands once it is rounded; past the limit stands infinity. -/
def nearestPosition (units : Nat) : Nat := min (nearestUnits units 1) unitsLimit

theorem nearestPosition_of_representable {units : Nat} (h : Representable units) :
    nearestPosition units = units := by
  rw [nearestPosition, nearestUnits_one h]
  exact Nat.min_eq_left (Nat.le_of_lt h.1)

/-- Rounding does not go below a power of two. -/
theorem two_pow_le_nearestUnits {units k : Nat} (h : 2 ^ k ≤ units) :
    2 ^ k ≤ nearestUnits units 1 := by
  have hne : units ≠ 0 := Nat.ne_of_gt (Nat.lt_of_lt_of_le (Nat.two_pow_pos k) h)
  have hexcess : excessBits units ≤ units.log2 := Nat.sub_le _ _
  have hround : units / 2 ^ excessBits units ≤ roundHalfEven units (2 ^ excessBits units) := by
    unfold roundHalfEven
    split_ifs <;> omega
  have hstep : 2 ^ k ≤ units / 2 ^ excessBits units * 2 ^ excessBits units := by
    rcases Nat.le_total (excessBits units) k with hle | hle
    · -- The power of two is a multiple of the step.
      have hpow : 2 ^ k = 2 ^ (k - excessBits units) * 2 ^ excessBits units := by
        rw [← Nat.pow_add, Nat.sub_add_cancel hle]
      rw [hpow]
      refine Nat.mul_le_mul_right _ ((Nat.le_div_iff_mul_le (Nat.two_pow_pos _)).mpr ?_)
      rwa [← hpow]
    · have hone : 1 ≤ units / 2 ^ excessBits units := by
        refine (Nat.le_div_iff_mul_le (Nat.two_pow_pos _)).mpr ?_
        rw [Nat.one_mul]
        exact (Nat.le_log2 hne).mp hexcess
      calc 2 ^ k ≤ 1 * 2 ^ excessBits units := by
            rw [Nat.one_mul]
            exact Nat.pow_le_pow_right (by decide) hle
        _ ≤ units / 2 ^ excessBits units * 2 ^ excessBits units := Nat.mul_le_mul_right _ hone
  rw [nearestUnits_eq, Nat.div_one, Nat.one_mul]
  exact hstep.trans (Nat.mul_le_mul_right _ hround)

/-- Where a signed number of units stands once it is rounded. -/
def rounded (units : Int) : Int :=
  if units < 0 then -nearestPosition units.natAbs else nearestPosition units.natAbs

theorem nearestPosition_zero : nearestPosition 0 = 0 :=
  nearestPosition_of_representable ⟨unitsLimit_pos, 0, 0, by decide, rfl⟩

theorem rounded_natCast (units : Nat) : rounded units = nearestPosition units := by
  rw [rounded, if_neg (by omega), Int.natAbs_natCast]

theorem rounded_neg_natCast (units : Nat) : rounded (-units) = -nearestPosition units := by
  rcases Nat.eq_zero_or_pos units with rfl | hpos
  · simp [rounded, nearestPosition_zero]
  · rw [rounded, if_pos (by omega), Int.natAbs_neg, Int.natAbs_natCast]

/-- Rounding a difference of magnitudes keeps the sign of the greater one. -/
theorem rounded_of_sub {m n : Nat} {units : Int} (hlt : n < m) (negative : Bool)
    (hunits : units = if negative then (n : Int) - m else m - n) :
    (if negative then -(nearestPosition (m - n) : Int) else nearestPosition (m - n)) =
      rounded units := by
  cases negative with
  | false =>
    rw [hunits, if_neg (by simp), if_neg (by simp), ← Int.ofNat_sub (Nat.le_of_lt hlt),
      rounded_natCast]
  | true =>
    rw [hunits, if_pos rfl, if_pos rfl, ← Int.neg_sub, ← Int.ofNat_sub (Nat.le_of_lt hlt),
      rounded_neg_natCast]

theorem position_ofUnits (negative : Bool) (units : Nat) :
    (ofUnits negative units 1).position =
      if negative then -(nearestPosition units : Int) else nearestPosition units := by
  unfold ofUnits nearestPosition
  split_ifs with hlimit hnegative hnegative
  · rw [hnegative, Nat.min_eq_left (Nat.le_of_lt hlimit)]
    rfl
  · rw [Bool.eq_false_iff.mpr hnegative, Nat.min_eq_left (Nat.le_of_lt hlimit)]
    rfl
  · rw [hnegative, Nat.min_eq_right (Nat.le_of_not_lt hlimit)]
    rfl
  · rw [Bool.eq_false_iff.mpr hnegative, Nat.min_eq_right (Nat.le_of_not_lt hlimit)]
    rfl

/-- A sum of finite doubles stands where the exact sum stands once it is rounded. -/
theorem position_add {x y : Binary64} (hx : x.isFinite = true) (hy : y.isFinite = true) :
    (x.add y).position = rounded (x.position + y.position) := by
  cases x with
  | nan => cases hx
  | infinite s => cases hx
  | finite s m hm =>
    cases y with
    | nan => cases hy
    | infinite t => cases hy
    | finite t n hn =>
      simp only [add]
      split_ifs with hsign heq hlt
      · subst hsign
        rw [position_ofUnits]
        cases s with
        | false => exact (rounded_natCast (m + n)).symm
        | true =>
          have hsum : (-(m : Int)) + -n = -((m + n : Nat) : Int) := by omega
          exact ((congrArg rounded hsum).trans (rounded_neg_natCast (m + n))).symm
      · -- Magnitudes of different signs that are the same add up to zero.
        have hsum : position (.finite s m hm) + position (.finite t n hn) = 0 := by
          cases s <;> cases t <;> simp [position, heq] at hsign ⊢
        rw [hsum]
        exact ((rounded_natCast 0).trans (congrArg Nat.cast nearestPosition_zero)).symm
      · rw [position_ofUnits]
        refine rounded_of_sub hlt s ?_
        cases s <;> cases t <;> simp [position] at hsign ⊢ <;> omega
      · rw [position_ofUnits]
        refine rounded_of_sub (by omega) t ?_
        cases s <;> cases t <;> simp [position] at hsign ⊢ <;> omega

/-- A whole multiple of a number of units is rounded on its side of zero. -/
theorem rounded_mul (n : Int) (unit : Nat) :
    rounded (n * unit) =
      if n < 0 then -(nearestPosition (n.natAbs * unit) : Int)
      else nearestPosition (n.natAbs * unit) := by
  by_cases hneg : n < 0
  · have hunits : n * unit = -((n.natAbs * unit : Nat) : Int) := by
      rw [Int.natCast_mul, Int.ofNat_natAbs_of_nonpos (Int.le_of_lt hneg), Int.neg_mul, Int.neg_neg]
    rw [hunits, rounded_neg_natCast, if_pos hneg]
  · have hunits : n * unit = ((n.natAbs * unit : Nat) : Int) := by
      rw [Int.natCast_mul, Int.natAbs_of_nonneg (by omega)]
    rw [hunits, rounded_natCast, if_neg hneg]

/-- The double nearest to a whole number stands where that stands once it is rounded. -/
theorem position_ofInt (n : Int) : (ofInt n).position = rounded (n * unitsPerOne) := by
  unfold ofInt ofRatio
  rw [position_ofUnits, rounded_mul]
  simp only [decide_eq_true_eq]

/-- A whole number below `2 ^ 53` stands where it stood. -/
theorem rounded_mul_unitsPerOne {n : Int} (h : n.natAbs < 2 ^ 53) :
    rounded (n * unitsPerOne) = n * unitsPerOne := by
  have hnearest := nearestPosition_of_representable (representable_natCast h)
  rw [rounded_mul, hnearest]
  generalize unitsPerOne = unit
  split_ifs with hneg
  · rw [Int.natCast_mul, Int.ofNat_natAbs_of_nonpos (Int.le_of_lt hneg), Int.neg_mul, Int.neg_neg]
  · rw [Int.natCast_mul, Int.natAbs_of_nonneg (by omega)]

/-- What is at least a power of two within the limit still is once it is rounded. -/
private theorem two_pow_le_min {precision places limit units : Nat}
    (h : 2 ^ precision * 2 ^ places ≤ units) (hlimit : precision + places ≤ limit) :
    2 ^ precision * 2 ^ places ≤ min (nearestUnits units 1) (2 ^ limit) := by
  rw [← Nat.pow_add] at h ⊢
  exact Nat.le_min.mpr ⟨two_pow_le_nearestUnits h, Nat.pow_le_pow_right (by decide) hlimit⟩

/-- What is at least `2 ^ 53` still is once it is rounded. -/
theorem le_nearestPosition {units : Nat} (h : 2 ^ 53 * unitsPerOne ≤ units) :
    2 ^ 53 * unitsPerOne ≤ nearestPosition units := by
  unfold nearestPosition unitsLimit
  unfold unitsPerOne at h ⊢
  have hplaces : 53 + 1074 ≤ 2098 := by decide
  revert h hplaces
  generalize 1074 = places
  generalize 2098 = limit
  exact two_pow_le_min

theorem le_rounded {units : Int} (h : 2 ^ 53 * (unitsPerOne : Int) ≤ units) :
    2 ^ 53 * (unitsPerOne : Int) ≤ rounded units := by
  have hunit := unitsPerOne_pos
  have hnearest : 2 ^ 53 * unitsPerOne ≤ units.natAbs →
    2 ^ 53 * unitsPerOne ≤ nearestPosition units.natAbs := le_nearestPosition
  unfold rounded
  generalize unitsPerOne = unit at *
  generalize nearestPosition units.natAbs = position at *
  split_ifs <;> omega

theorem rounded_le {units : Int} (h : units ≤ -(2 ^ 53 * (unitsPerOne : Int))) :
    rounded units ≤ -(2 ^ 53 * (unitsPerOne : Int)) := by
  have hunit := unitsPerOne_pos
  have hnearest : 2 ^ 53 * unitsPerOne ≤ units.natAbs →
    2 ^ 53 * unitsPerOne ≤ nearestPosition units.natAbs := le_nearestPosition
  unfold rounded
  generalize unitsPerOne = unit at *
  generalize nearestPosition units.natAbs = position at *
  split_ifs <;> omega

theorem ofInt_ne_nan (n : Int) : ofInt n ≠ .nan := by
  unfold ofInt ofRatio
  exact ofUnits_ne_nan _ _ _

/-- A whole number below `2 ^ 53` has a nearest double. -/
theorem isFinite_ofInt {n : Int} (h : n.natAbs < 2 ^ 53) : (ofInt n).isFinite = true := by
  have hrep := representable_natCast h
  unfold ofInt ofRatio
  rw [ofUnits_of_representable _ hrep (nearestUnits_one hrep)]
  rfl

theorem rounded_nonpos {units : Int} (h : units < 0) : rounded units ≤ 0 := by
  rw [rounded, if_pos h]
  omega

theorem add_ne_nan {x y : Binary64} (hx : x.isFinite = true) (hy : y.isFinite = true) :
    x.add y ≠ .nan := by
  cases x with
  | nan => cases hx
  | infinite s => cases hx
  | finite s m hm =>
    cases y with
    | nan => cases hy
    | infinite t => cases hy
    | finite t n hn =>
      simp only [add]
      split_ifs
      · exact ofUnits_ne_nan _ _ _
      · simp [zero]
      · exact ofUnits_ne_nan _ _ _
      · exact ofUnits_ne_nan _ _ _

/-- Adding two whole numbers with roundings, seen from a third one below `2 ^ 53`. -/
theorem rounded_add_le_iff {put now n : Int} (hnow : now.natAbs < 2 ^ 53) (hlater : put ≤ now)
    (hn : 0 ≤ put ∨ n.natAbs < 2 ^ 53) :
    rounded (put * unitsPerOne + rounded (n * unitsPerOne)) ≤ now * unitsPerOne ↔ put + n ≤ now := by
  have hunit := unitsPerOne_pos
  have hexact : n.natAbs < 2 ^ 53 → rounded (n * unitsPerOne) = n * unitsPerOne :=
    rounded_mul_unitsPerOne
  have hsum : (put + n).natAbs < 2 ^ 53 →
      rounded ((put + n) * unitsPerOne) = (put + n) * unitsPerOne := rounded_mul_unitsPerOne
  have habove : ∀ units : Int, 2 ^ 53 * (unitsPerOne : Int) ≤ units →
      2 ^ 53 * (unitsPerOne : Int) ≤ rounded units := fun _ => le_rounded
  have hbelow : ∀ units : Int, units ≤ -(2 ^ 53 * (unitsPerOne : Int)) →
      rounded units ≤ -(2 ^ 53 * (unitsPerOne : Int)) := fun _ => rounded_le
  have hnonpos : ∀ units : Int, units < 0 → rounded units ≤ 0 := fun _ => rounded_nonpos
  generalize rounded = round at *
  generalize unitsPerOne = unit at *
  have hscale : ∀ {a b : Int}, a ≤ b → a * unit ≤ b * unit := fun h =>
    Int.mul_le_mul_of_nonneg_right h (by omega)
  have hnowAbove : now * unit ≤ (2 ^ 53 - 1) * unit := hscale (by omega)
  have hnowBelow : (-(2 ^ 53) + 1) * unit ≤ now * unit := hscale (by omega)
  rcases Nat.lt_or_ge n.natAbs (2 ^ 53) with hsmall | hlarge
  · rw [hexact hsmall, ← Int.add_mul]
    rcases Nat.lt_or_ge (put + n).natAbs (2 ^ 53) with hinner | houter
    · rw [hsum hinner]
      exact Int.mul_le_mul_iff_of_pos_right (by omega)
    · -- The sum is rounded, but on its side of all that it is compared with.
      rcases Int.le_total 0 (put + n) with hpositive | hnegative
      · have habove := habove _ (hscale (show 2 ^ 53 ≤ put + n by omega))
        omega
      · have hbelow := hbelow ((put + n) * unit) (by
          have hscaled : (put + n) * unit ≤ -(2 ^ 53) * unit := hscale (by omega)
          omega)
        omega
  · -- So is a lifetime past `2 ^ 53`, which a time from zero on cannot bring back.
    have hnonneg : 0 ≤ put := by omega
    have hputAbove : 0 ≤ put * unit := by simpa using hscale hnonneg
    have hputBelow : put * unit ≤ (2 ^ 53 - 1) * unit := hscale (by omega)
    rcases Int.le_total 0 n with hpositive | hnegative
    · have hround := habove _ (hscale (show 2 ^ 53 ≤ n by omega))
      have hround' := habove (put * unit + round (n * unit)) (by omega)
      omega
    · have hround := hbelow (n * unit) (by
        have hscaled : n * unit ≤ -(2 ^ 53) * unit := hscale (by omega)
        omega)
      have hround' := hnonpos (put * unit + round (n * unit)) (by omega)
      have hnowAbove : 0 ≤ now * unit := by simpa using hscale (show 0 ≤ now by omega)
      omega

/-- Comparing the sum of a time and a lifetime with a time no earlier is as good as exact. -/
theorem add_le_iff {put now n : Int} (hput : put.natAbs < 2 ^ 53) (hnow : now.natAbs < 2 ^ 53)
    (hlater : put ≤ now) (hn : 0 ≤ put ∨ n.natAbs < 2 ^ 53) (hrange : (ofInt n).isFinite = true) :
    (Number.float ((ofInt put).add (ofInt n))).le (.float (ofInt now)) = true ↔ put + n ≤ now := by
  have hfinite := isFinite_ofInt hput
  rw [Number.le_float_iff (add_ne_nan hfinite hrange) (ofInt_ne_nan now), position_add hfinite hrange,
    position_ofInt, position_ofInt, position_ofInt, rounded_mul_unitsPerOne hput,
    rounded_mul_unitsPerOne hnow]
  exact rounded_add_le_iff hnow hlater hn

end StyleTokens.Binary64
