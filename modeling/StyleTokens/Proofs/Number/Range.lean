import Mathlib.Data.Nat.Log
import Mathlib.Tactic.SplitIfs
import StyleTokens.Proofs.Number.Decimal
import StyleTokens.Proofs.Number.Sum

/-!
# The range of doubles

Infinite numbers, and whole numbers past every double, have no end that a double could show.
Rounding never goes beyond a double that the exact number does not go beyond, so a finite double
times a factor of at most one is finite.
-/

namespace StyleTokens

/-- A whole number that can be added to a double: it is not past every finite one. -/
def InDoubleRange (n : Int) : Prop := (Binary64.ofInt n).isFinite = true

instance (n : Int) : Decidable (InDoubleRange n) :=
  inferInstanceAs (Decidable ((Binary64.ofInt n).isFinite = true))

/-- A whole number below `2 ^ 53` is in that range. -/
theorem inDoubleRange_of_lt {n : Int} (h : n.natAbs < 2 ^ 53) : InDoubleRange n :=
  Binary64.isFinite_ofInt h

/-- A number without end: it is infinite, or a whole number past every double. -/
def Number.IsEndless : Number → Prop
  | .int n => ¬InDoubleRange n
  | .float x => ∃ negative, x = .infinite negative

/-- A ratio that is at most a whole number is not rounded beyond it. -/
theorem roundHalfEven_le_of_le {num den n : Nat} (hden : 0 < den) (h : num ≤ n * den) :
    roundHalfEven num den ≤ n := by
  have hfloor : num / den ≤ n := Nat.div_le_of_le_mul (by rwa [Nat.mul_comm])
  rcases Nat.lt_or_eq_of_le hfloor with hlt | heq
  · exact (roundHalfEven_le num den).trans hlt
  · have hnum : num = n * den := by
      refine Nat.le_antisymm h ?_
      rw [← heq]
      exact Nat.div_mul_le_self num den
    rw [hnum, roundHalfEven_mul_self n hden]

namespace Binary64

/-- A ratio that is at most a double is not rounded beyond it. -/
theorem nearestUnits_le {num den units : Nat} (hrep : Representable units) (hden : 0 < den)
    (h : num ≤ units * den) : nearestUnits num den ≤ units := by
  have hquotient : num / den ≤ units := Nat.div_le_of_le_mul (by rwa [Nat.mul_comm])
  have hexcess : excessBits (num / den) ≤ excessBits units := by
    unfold excessBits
    rw [Nat.log2_eq_log_two, Nat.log2_eq_log_two]
    exact Nat.sub_le_sub_right (Nat.log_mono_right hquotient) 52
  -- The double is a multiple of the step to which the ratio is rounded.
  obtain ⟨n, hn⟩ := (Nat.pow_dvd_pow 2 hexcess).trans (two_pow_excessBits_dvd hrep)
  rw [nearestUnits_eq]
  calc roundHalfEven num (den * 2 ^ excessBits (num / den)) * 2 ^ excessBits (num / den)
      ≤ n * 2 ^ excessBits (num / den) := by
        refine Nat.mul_le_mul_right _ (roundHalfEven_le_of_le (by positivity) ?_)
        rw [hn] at h
        calc num ≤ 2 ^ excessBits (num / den) * n * den := h
          _ = n * (den * 2 ^ excessBits (num / den)) := by ac_rfl
    _ = units := by rw [hn, Nat.mul_comm]

/-- One is a double. -/
theorem representable_unitsPerOne : Representable unitsPerOne := by
  have hone := representable_natCast (show 1 < 2 ^ 53 by decide)
  rwa [Nat.one_mul] at hone

/-- A finite double times a factor of at most one is finite. -/
theorem isFinite_mul {x : Binary64} (hx : x.isFinite = true) {negative : Bool} {units : Nat}
    (hunits : Representable units) (hle : units ≤ unitsPerOne) :
    (x.mul (.finite negative units hunits)).isFinite = true := by
  cases x with
  | nan => cases hx
  | infinite s => cases hx
  | finite s m hm =>
    have hround : nearestUnits (m * units) unitsPerOne ≤ m :=
      nearestUnits_le hm unitsPerOne_pos (Nat.mul_le_mul_left m hle)
    rw [mul, ofUnits, dif_pos (Nat.lt_of_le_of_lt hround hm.1)]
    rfl

end Binary64

/-- A hundredth as a double is not zero, and at most one. -/
theorem Decimal.exists_toBinary64_hundredth :
    ∃ units, ∃ hunits : Binary64.Representable units, units ≠ 0 ∧ units ≤ Binary64.unitsPerOne ∧
      (Decimal.mk 1 (-2)).toBinary64 false = .finite false units hunits := by
  have hone := Binary64.representable_unitsPerOne
  have hle : Binary64.nearestUnits Binary64.unitsPerOne 100 ≤ Binary64.unitsPerOne :=
    Binary64.nearestUnits_le hone (by decide) (Nat.le_mul_of_pos_right _ (by decide))
  have hlt := Nat.lt_of_le_of_lt hle hone.1
  have hne : Binary64.nearestUnits Binary64.unitsPerOne 100 ≠ 0 := by
    obtain ⟨places, hplaces, hmany⟩ := Binary64.unitsPerOne_eq_two_pow
    have hlarge : 2 ^ 7 ≤ 2 ^ places := Nat.pow_le_pow_right (by decide) (by omega)
    have hhalf := Binary64.div_le_two_mul_nearestUnits Binary64.unitsPerOne 100
    rw [hplaces] at hhalf ⊢
    omega
  refine ⟨_, Binary64.representable_nearestUnits hlt, hne, hle, ?_⟩
  have hnum : (Decimal.mk 1 (-2)).num = 1 := by decide
  have hden : (Decimal.mk 1 (-2)).den = 100 := by decide
  unfold toBinary64
  dsimp only
  rw [if_neg (by decide), if_neg (by decide), Binary64.ofRatio, hnum, hden, Nat.one_mul]
  exact dif_pos hlt

end StyleTokens
