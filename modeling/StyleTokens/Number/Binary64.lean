/-!
# Double-precision numbers

A finite double is a sign and a whole number of *units*, one unit being `2 ^ (-1074)`, the
smallest positive double. A number of units is a double's magnitude when it has at most 53
significant binary digits and stays below `2 ^ 2098` units. Rounding is to the nearest such
number, a tie going to the one whose last kept digit is even; every operation rounds its exact
result once.
-/

namespace StyleTokens

/-- `num / den` rounded to the nearest whole number, a tie going to the even neighbour. -/
def roundHalfEven (num den : Nat) : Nat :=
  if 2 * (num % den) < den then num / den
  else if den < 2 * (num % den) then num / den + 1
  else num / den + num / den % 2

/-- `num / den` rounded to the nearest whole number, a tie going up. -/
def roundHalfUp (num den : Nat) : Nat :=
  (2 * num + den) / (2 * den)

theorem roundHalfEven_le (num den : Nat) : roundHalfEven num den ≤ num / den + 1 := by
  unfold roundHalfEven
  split
  · omega
  · split <;> omega

namespace Binary64

/-- How many units make one: a unit is `1 / unitsPerOne`. -/
def unitsPerOne : Nat := Nat.pow 2 1074

/-- Every finite double has fewer units than this. -/
def unitsLimit : Nat := Nat.pow 2 2098

theorem unitsLimit_pos : 0 < unitsLimit := by
  unfold unitsLimit
  generalize 2098 = limit
  exact Nat.two_pow_pos limit

/-- How many binary digits of `n` stand below its leading 53. -/
def excessBits (n : Nat) : Nat := n.log2 - 52

/-- A number of units that some finite double has: 53 binary digits, shifted, below the limit. -/
def Representable (units : Nat) : Prop :=
  units < unitsLimit ∧
    ∃ significand shift, significand ≤ Nat.pow 2 53 ∧ units = significand * Nat.pow 2 shift

/-- The whole number with 53 significant binary digits nearest to `num / den`. -/
def nearestUnits (num den : Nat) : Nat :=
  let step := Nat.pow 2 (excessBits (num / den))
  roundHalfEven num (den * step) * step

theorem div_two_pow_excessBits_lt (n : Nat) :
    n / Nat.pow 2 (excessBits n) < Nat.pow 2 53 := by
  rw [Nat.pow_eq, Nat.pow_eq]
  rw [Nat.div_lt_iff_lt_mul (Nat.two_pow_pos _), ← Nat.pow_add]
  refine Nat.lt_of_lt_of_le Nat.lt_log2_self (Nat.pow_le_pow_right (by decide) ?_)
  unfold excessBits
  omega

theorem representable_nearestUnits {num den : Nat} (h : nearestUnits num den < unitsLimit) :
    Representable (nearestUnits num den) := by
  refine ⟨h, _, _, ?_, rfl⟩
  have hround := roundHalfEven_le num (den * Nat.pow 2 (excessBits (num / den)))
  rw [← Nat.div_div_eq_div_mul] at hround
  have hdiv := div_two_pow_excessBits_lt (num / den)
  omega

end Binary64

/-- A double: not a number, an infinity, or a signed representable number of units. -/
inductive Binary64 where
  /-- The result of an operation without one, such as `∞ - ∞`. -/
  | nan
  /-- A magnitude beyond every finite double. -/
  | infinite (negative : Bool)
  /-- A finite double; zero has two signs. -/
  | finite (negative : Bool) (units : Nat) (representable : Binary64.Representable units)
  deriving DecidableEq

namespace Binary64

/-- Positive zero. -/
def zero : Binary64 := .finite false 0 ⟨unitsLimit_pos, 0, 0, by decide, rfl⟩

instance : Inhabited Binary64 := ⟨zero⟩

/-- The double nearest to `num / den` units; past the limit it is infinite. -/
def ofUnits (negative : Bool) (num den : Nat) : Binary64 :=
  if h : nearestUnits num den < unitsLimit then
    .finite negative (nearestUnits num den) (representable_nearestUnits h)
  else .infinite negative

/-- The double nearest to `num / den`. -/
def ofRatio (negative : Bool) (num den : Nat) : Binary64 :=
  ofUnits negative (num * unitsPerOne) den

/-- The double nearest to a whole number. -/
def ofInt (n : Int) : Binary64 :=
  ofRatio (n < 0) n.natAbs 1

/-- A finite double as a signed number of units; `none` for the others. -/
def toUnits? : Binary64 → Option Int
  | .finite true units _ => some (-units)
  | .finite false units _ => some units
  | _ => none

/-- Whether a double is neither infinite nor `nan`. -/
def isFinite : Binary64 → Bool
  | .finite .. => true
  | _ => false

/-- Whether a double is a zero of either sign. -/
def isZero : Binary64 → Bool
  | .finite _ units _ => units == 0
  | _ => false

/-- The sum, rounded once. An exact zero is positive unless both summands are negative. -/
def add : Binary64 → Binary64 → Binary64
  | .nan, _ => .nan
  | _, .nan => .nan
  | .infinite s, .infinite t => if s = t then .infinite s else .nan
  | .infinite s, _ => .infinite s
  | _, .infinite t => .infinite t
  | .finite s m _, .finite t n _ =>
    if s = t then ofUnits s (m + n) 1
    else if m = n then zero
    else if n < m then ofUnits s (m - n) 1
    else ofUnits t (n - m) 1

/-- The product, rounded once. -/
def mul : Binary64 → Binary64 → Binary64
  | .nan, _ => .nan
  | _, .nan => .nan
  | .infinite s, .infinite t => .infinite (s != t)
  | .infinite s, .finite t n _ => if n = 0 then .nan else .infinite (s != t)
  | .finite s m _, .infinite t => if m = 0 then .nan else .infinite (s != t)
  | .finite s m _, .finite t n _ => ofUnits (s != t) (m * n) unitsPerOne

/-- Whether a double is a finite whole number. -/
def isWhole : Binary64 → Bool
  | .finite _ units _ => units % unitsPerOne == 0
  | _ => false

/-- The whole part of a finite double, its fraction dropped. -/
def truncate? : Binary64 → Option Int
  | .finite true units _ => some (-(units / unitsPerOne : Nat))
  | .finite false units _ => some (units / unitsPerOne : Nat)
  | _ => none

/-- The 64 bits of the interchange format, as a number: sign, 11 bits of exponent, 52 of
fraction. -/
def toBits : Binary64 → Nat
  | .nan => 0x7ff8000000000000
  | .infinite negative => (if negative then Nat.pow 2 63 else 0) + 0x7ff0000000000000
  | .finite negative units _ =>
    let shift := excessBits units
    let significand := units / Nat.pow 2 shift
    let implied := Nat.pow 2 52
    (if negative then Nat.pow 2 63 else 0) +
      (if significand < implied then significand
        else (shift + 1) * implied + (significand - implied))

end Binary64

end StyleTokens
