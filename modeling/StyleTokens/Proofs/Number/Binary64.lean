import Mathlib.Algebra.GroupWithZero.Nat
import Mathlib.Tactic.SplitIfs
import StyleTokens.Number.Basic
import StyleTokens.Proofs.Number.Digits

/-!
# Rounding to doubles

Rounding depends on the value of a ratio alone, keeps what a double can hold, and so gives the
whole numbers below `2 ^ 53` back.
-/

namespace StyleTokens

/-- Rounding a ratio does not depend on how it is written. -/
theorem roundHalfEven_mul_right (num den : Nat) {k : Nat} (hk : 0 < k) :
    roundHalfEven (num * k) (den * k) = roundHalfEven num den := by
  unfold roundHalfEven
  have hdiv : num * k / (den * k) = num / den := Nat.mul_div_mul_right num den hk
  have hmod : num * k % (den * k) = num % den * k := Nat.mul_mod_mul_right k num den
  have hbelow : 2 * (num % den * k) < den * k ↔ 2 * (num % den) < den := by
    rw [← Nat.mul_assoc, Nat.mul_lt_mul_right hk]
  have habove : den * k < 2 * (num % den * k) ↔ den < 2 * (num % den) := by
    rw [← Nat.mul_assoc, Nat.mul_lt_mul_right hk]
  simp only [hdiv, hmod, hbelow, habove]

/-- A whole number is rounded to itself. -/
theorem roundHalfEven_mul_self (n : Nat) {den : Nat} (hden : 0 < den) :
    roundHalfEven (n * den) den = n := by
  unfold roundHalfEven
  rw [Nat.mul_mod_left, Nat.mul_div_cancel n hden]
  simp [hden]

namespace Binary64

/-- What a double can hold, in powers of two. -/
theorem representable_iff {units : Nat} :
    Representable units ↔ units < unitsLimit ∧
      ∃ significand shift, significand ≤ 2 ^ 53 ∧ units = significand * 2 ^ shift :=
  Iff.rfl

/-- Rounding to a double's precision, in powers of two. -/
theorem nearestUnits_eq (num den : Nat) :
    nearestUnits num den =
      roundHalfEven num (den * 2 ^ excessBits (num / den)) * 2 ^ excessBits (num / den) :=
  rfl

theorem unitsPerOne_pos : 0 < unitsPerOne := by
  unfold unitsPerOne
  generalize 1074 = places
  exact Nat.two_pow_pos places

/-- Rounding to a double's precision does not depend on how the ratio is written. -/
theorem nearestUnits_mul_right (num den : Nat) {k : Nat} (hk : 0 < k) :
    nearestUnits (num * k) (den * k) = nearestUnits num den := by
  rw [nearestUnits_eq, nearestUnits_eq, Nat.mul_div_mul_right num den hk, Nat.mul_right_comm,
    roundHalfEven_mul_right _ _ hk]

/-- The excess digits of a number of units that a double has are zeros. -/
theorem two_pow_excessBits_dvd {units : Nat} (h : Representable units) :
    2 ^ excessBits units ∣ units := by
  obtain ⟨-, significand, shift, hsignificand, rfl⟩ := representable_iff.mp h
  rcases Nat.eq_zero_or_pos significand with rfl | hpos
  · simp
  have hne : significand * 2 ^ shift ≠ 0 :=
    Nat.mul_ne_zero (by omega) (Nat.ne_of_gt (Nat.two_pow_pos shift))
  rcases Nat.lt_or_eq_of_le hsignificand with hlt | rfl
  · have hlog : (significand * 2 ^ shift).log2 < 53 + shift := by
      rw [Nat.log2_lt hne, Nat.pow_add]
      exact Nat.mul_lt_mul_of_pos_right hlt (Nat.two_pow_pos shift)
    refine Nat.dvd_mul_left_of_dvd (Nat.pow_dvd_pow 2 ?_) significand
    unfold excessBits
    omega
  · rw [← Nat.pow_add, excessBits, Nat.log2_two_pow]
    exact Nat.pow_dvd_pow 2 (by omega)

/-- What a double can hold is not rounded. -/
theorem nearestUnits_one {units : Nat} (h : Representable units) : nearestUnits units 1 = units := by
  obtain ⟨n, hn⟩ := two_pow_excessBits_dvd h
  have hunits : units = n * 2 ^ excessBits units := by rwa [Nat.mul_comm]
  have hround : roundHalfEven units (2 ^ excessBits units) = n :=
    (congrArg (roundHalfEven · (2 ^ excessBits units)) hunits).trans
      (roundHalfEven_mul_self n (Nat.two_pow_pos _))
  rw [nearestUnits_eq, Nat.div_one, Nat.one_mul, hround]
  exact hunits.symm

/-- A double that is made from a ratio is a number. -/
theorem ofUnits_ne_nan (negative : Bool) (num den : Nat) : ofUnits negative num den ≠ .nan := by
  unfold ofUnits
  split <;> simp

/-- The double of the units that one can hold. -/
theorem ofUnits_of_representable (negative : Bool) {num den units : Nat} (h : Representable units)
    (hunits : nearestUnits num den = units) :
    ofUnits negative num den = .finite negative units h := by
  subst hunits
  exact dif_pos h.1

/-- A whole number below a power of two, shifted, stays below the shifted power. -/
private theorem shifted_lt {n precision places limit : Nat} (h : n < 2 ^ precision)
    (hlimit : precision + places ≤ limit) :
    n * 2 ^ places < 2 ^ limit ∧
      ∃ significand shift, significand ≤ 2 ^ precision ∧
        n * 2 ^ places = significand * 2 ^ shift := by
  refine ⟨?_, n, places, Nat.le_of_lt h, rfl⟩
  calc n * 2 ^ places < 2 ^ precision * 2 ^ places :=
        Nat.mul_lt_mul_of_pos_right h (Nat.two_pow_pos places)
    _ = 2 ^ (precision + places) := (Nat.pow_add 2 precision places).symm
    _ ≤ 2 ^ limit := Nat.pow_le_pow_right (by decide) hlimit

/-- A whole number below `2 ^ 53` is a double. -/
theorem representable_natCast {n : Nat} (h : n < 2 ^ 53) : Representable (n * unitsPerOne) := by
  rw [representable_iff]
  unfold unitsPerOne unitsLimit
  have hplaces : 53 + 1074 ≤ 2098 := by decide
  revert hplaces
  generalize 1074 = places
  generalize 2098 = limit
  exact shifted_lt h

end Binary64

/-- Where a number stands among all, in units; the infinities stand right beyond every finite
double. -/
def Binary64.position : Binary64 → Int
  | .nan => 0
  | .infinite true => -unitsLimit
  | .infinite false => unitsLimit
  | .finite true units _ => -units
  | .finite false units _ => units

/-- Doubles that are numbers compare by where they stand. -/
theorem Number.le_float_iff {x y : Binary64} (hx : x ≠ .nan) (hy : y ≠ .nan) :
    (Number.float x).le (.float y) = true ↔ x.position ≤ y.position := by
  have hlimit := Binary64.unitsLimit_pos
  cases x with
  | nan => exact absurd rfl hx
  | infinite s =>
    cases y with
    | nan => exact absurd rfl hy
    | infinite t =>
      have hle : (Number.float (.infinite s)).le (.float (.infinite t)) = (s || !t) := by
        cases s <;> cases t <;> rfl
      rw [hle]
      cases s <;> cases t <;> simp only [Binary64.position]
      all_goals
        generalize Binary64.unitsLimit = limit at *
        simp <;> omega
    | finite t n hn =>
      have hle : (Number.float (.infinite s)).le (.float (.finite t n hn)) = s := by
        cases s <;> cases t <;> rfl
      have hbelow := hn.1
      rw [hle]
      cases s <;> cases t <;> simp only [Binary64.position]
      all_goals
        generalize Binary64.unitsLimit = limit at *
        simp <;> omega
  | finite s m hm =>
    have hbelow := hm.1
    cases y with
    | nan => exact absurd rfl hy
    | infinite t =>
      have hle : (Number.float (.finite s m hm)).le (.float (.infinite t)) = !t := by
        cases s <;> cases t <;> rfl
      rw [hle]
      cases s <;> cases t <;> simp only [Binary64.position]
      all_goals
        generalize Binary64.unitsLimit = limit at *
        simp <;> omega
    | finite t n hn =>
      have hle : (Number.float (.finite s m hm)).le (.float (.finite t n hn)) =
          decide ((Binary64.finite s m hm).position ≤ (Binary64.finite t n hn).position) := by
        cases s <;> cases t <;> rfl
      rw [hle, decide_eq_true_eq]

/-- A decimal that is read as a double is a number. -/
theorem Decimal.toBinary64_ne_nan (negative : Bool) (d : Decimal) :
    d.toBinary64 negative ≠ .nan := by
  unfold Decimal.toBinary64
  dsimp only
  split_ifs
  · exact Binary64.ofUnits_ne_nan _ _ _
  · simp
  · exact Binary64.ofUnits_ne_nan _ _ _

/-- A whole number below `2 ^ 53` is read without rounding. -/
theorem Decimal.toBinary64_natCast {n : Nat} (h : n < 2 ^ 53) :
    (Decimal.mk n 0).toBinary64 false =
      .finite false (n * Binary64.unitsPerOne) (Binary64.representable_natCast h) := by
  have hcount : digitCount n ≤ 16 := (digitCount_le_iff (by decide)).mpr (by omega)
  have hunits := Binary64.nearestUnits_one (Binary64.representable_natCast h)
  unfold Decimal.toBinary64
  dsimp only
  split_ifs with hzero hlarge
  · have hn : n = 0 := by omega
    subst hn
    refine Binary64.ofUnits_of_representable _ _ ?_
    rwa [Nat.zero_mul] at hunits ⊢
  · omega
  · refine Binary64.ofUnits_of_representable _ _ ?_
    simpa [Decimal.num, Decimal.den] using hunits

end StyleTokens
