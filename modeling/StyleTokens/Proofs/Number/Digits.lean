import Mathlib.Algebra.GroupWithZero.Nat
import Mathlib.Data.List.Induction
import Mathlib.Tactic.IntervalCases
import Mathlib.Tactic.SplitIfs
import StyleTokens.Number.Decimal
import StyleTokens.Text.Blank
import StyleTokens.Text.Character

/-!
# Digits and the numbers they denote

The digits of a number denote that number, and putting further digits behind a numeral multiplies
it by a power of ten. Digits without a needless zero in front are the digits of what they denote, so
no other such digits denote it. Plain notation of a decimal shows its digits, and a point among them
or zeros behind them.
-/

namespace StyleTokens

/-- A character is a digit for the readers of numbers exactly if it is one. -/
@[simp] theorem Text.isAsciiDigit_eq (c : Char) : Text.isAsciiDigit c = c.isDigit := by
  simp [Text.isAsciiDigit, Char.isDigit, Char.le_def]

/-- The value of an ASCII digit, and the digit of that value. -/
theorem decimalDigit?_of_isDigit {c : Char} (h : c.isDigit = true) :
    ∃ d, Text.decimalDigit? c = some d ∧ Nat.digitChar d = c := by
  have hrange : 48 ≤ c.toNat ∧ c.toNat ≤ 57 := by
    simpa [Char.isDigit, UInt32.le_iff_toNat_le] using h
  refine ⟨c.toNat - 48, ?_, ?_⟩
  · simp [Text.decimalDigit?, Text.zeroCodes, hrange]
  · have hchar : c = Char.ofNat c.toNat := c.ofNat_toNat.symm
    rw [hchar]
    obtain ⟨hlow, hhigh⟩ := hrange
    generalize c.toNat = n at hlow hhigh
    interval_cases n <;> rfl

/-- A digit is no white space. -/
theorem isBlank_of_isDigit {c : Char} (h : c.isDigit = true) : Text.isBlank c = false := by
  have hrange : 48 ≤ c.toNat ∧ c.toNat ≤ 57 := by
    simpa [Char.isDigit, UInt32.le_iff_toNat_le] using h
  simp [Text.isBlank, Text.inRanges, Text.blankRanges]
  omega

/-- The digits of a number are digits. -/
theorem isDigit_of_mem_digits {n : Nat} {c : Char} (h : c ∈ digits n) : c.isDigit = true :=
  Nat.isDigit_of_mem_toDigits (by decide) (by decide) h

/-- Every number has a digit. -/
@[simp] theorem digits_ne_nil (n : Nat) : digits n ≠ [] := Nat.toDigits_ne_nil

theorem digitCount_pos (n : Nat) : 0 < digitCount n := Nat.length_toDigits_pos

/-- A number has at most so many digits exactly if it is below that power of ten. -/
theorem digitCount_le_iff {n k : Nat} (hk : 0 < k) : digitCount n ≤ k ↔ n < 10 ^ k :=
  Nat.length_toDigits_le_iff (by decide) hk

/-- The digits of a positive number do not begin with zero. -/
theorem head_digits_ne_zero {n : Nat} (h : 0 < n) : (digits n).head? ≠ some '0' := by
  induction n using Nat.strongRecOn with
  | ind n ih =>
    rcases Nat.lt_or_ge n 10 with hsmall | hlarge
    · rw [digits, Nat.toDigits_of_lt_base hsmall]
      simp only [List.head?_cons, ne_eq, Option.some.injEq]
      interval_cases n <;> decide
    · have hfront := ih (n / 10) (by omega) (by omega)
      obtain ⟨d, more, hdigits⟩ := List.exists_cons_of_ne_nil (digits_ne_nil (n / 10))
      rw [digits] at hdigits hfront
      rw [digits, Nat.toDigits_of_base_le (by decide) hlarge]
      rwa [hdigits] at hfront ⊢

/-- The value of a digit is its distance from the digit zero. -/
theorem digitValue_of_isDigit {c : Char} (h : c.isDigit = true) :
    digitValue c = c.toNat - '0'.toNat := by
  have hrange : '0' ≤ c ∧ c ≤ '9' := by
    simpa [Char.isDigit, Char.le_def] using h
  rw [digitValue, if_pos hrange]

/-- Reading digits is the reading of digits in base ten. -/
theorem foldl_digitValue {ds : List Char} (h : ∀ c ∈ ds, c.isDigit = true) (n : Nat) :
    ds.foldl (fun n c => 10 * n + digitValue c) n = Nat.ofDigitChars 10 ds n := by
  induction ds generalizing n with
  | nil => rfl
  | cons c ds ih =>
    have hrest : ∀ d ∈ ds, d.isDigit = true := fun d hd => h d (List.mem_cons_of_mem _ hd)
    rw [List.foldl_cons, ih hrest, Nat.ofDigitChars_cons, digitValue_of_isDigit (h c (by simp))]

/-- The digits of a number denote it. -/
@[simp] theorem ofDigits_digits (n : Nat) : ofDigits (digits n) = n := by
  rw [ofDigits, foldl_digitValue fun c => isDigit_of_mem_digits]
  exact Nat.ofDigitChars_ten_toDigits

/-- A numeral behind another: the first counts as often as the power of ten of the second's
length. -/
theorem ofDigits_append {front back : List Char} (hback : ∀ c ∈ back, c.isDigit = true) :
    ofDigits (front ++ back) = 10 ^ back.length * ofDigits front + ofDigits back := by
  unfold ofDigits
  rw [List.foldl_append, foldl_digitValue hback, foldl_digitValue hback,
    Nat.ofDigitChars_eq_ofDigitChars_zero]

/-- Zeros in front of a numeral do not count. -/
theorem ofDigits_replicate_append (k : Nat) {ds : List Char}
    (hds : ∀ c ∈ ds, c.isDigit = true) : ofDigits (List.replicate k '0' ++ ds) = ofDigits ds := by
  have hzeros : ofDigits (List.replicate k '0') = 0 := by
    rw [ofDigits, foldl_digitValue (by simp [List.mem_replicate])]
    simp
  rw [ofDigits_append hds, hzeros, Nat.mul_zero, Nat.zero_add]

/-- Zeros behind a numeral multiply it by a power of ten. -/
theorem ofDigits_append_replicate (ds : List Char) (k : Nat) :
    ofDigits (ds ++ List.replicate k '0') = 10 ^ k * ofDigits ds := by
  have hzeros : ∀ c ∈ List.replicate k '0', c.isDigit = true := by simp [List.mem_replicate]
  have hvalue : ofDigits (List.replicate k '0') = 0 := by
    rw [ofDigits, foldl_digitValue hzeros]
    simp
  rw [ofDigits_append hzeros, hvalue, List.length_replicate, Nat.add_zero]

/-- The digit of the value of a digit is that digit. -/
theorem digitChar_digitValue {c : Char} (h : c.isDigit = true) :
    Nat.digitChar (digitValue c) = c := by
  have hrange : 48 ≤ c.toNat ∧ c.toNat ≤ 57 := by
    simpa [Char.isDigit, UInt32.le_iff_toNat_le] using h
  have hzero : '0'.toNat = 48 := rfl
  apply Char.toNat_inj.mp
  rw [digitValue_of_isDigit h, hzero, Nat.toNat_digitChar_of_lt_ten (by omega)]
  omega

/-- The value of a character is below ten. -/
theorem digitValue_lt (c : Char) : digitValue c < 10 := by
  unfold digitValue
  split_ifs with h
  · have hnine : c.toNat ≤ '9'.toNat := UInt32.le_iff_toNat_le.mp h.2
    have : '9'.toNat - '0'.toNat < 10 := by decide
    omega
  · decide

/-- One more digit behind a numeral. -/
theorem ofDigits_concat (front : List Char) (c : Char) :
    ofDigits (front ++ [c]) = 10 * ofDigits front + digitValue c := by
  unfold ofDigits
  rw [List.foldl_append]
  rfl

/-- A numeral of so many digits is below that power of ten. -/
theorem ofDigits_lt (ds : List Char) : ofDigits ds < 10 ^ ds.length := by
  induction ds using List.reverseRecOn with
  | nil => decide
  | append_singleton front c ih =>
    have hlast := digitValue_lt c
    rw [ofDigits_concat, List.length_append, List.length_singleton, Nat.pow_succ]
    omega

/-- Digits that do not begin with a needless zero are the digits of the number that they denote. -/
theorem digits_ofDigits {ds : List Char} (hdigits : ∀ c ∈ ds, c.isDigit = true) (hne : ds ≠ [])
    (hlead : ds.head? = some '0' → ds = ['0']) : digits (ofDigits ds) = ds := by
  induction ds using List.reverseRecOn with
  | nil => exact absurd rfl hne
  | append_singleton front c ih =>
    have hlast : Nat.digitChar (digitValue c) = c := digitChar_digitValue (hdigits c (by simp))
    have hvalue := digitValue_lt c
    rw [ofDigits_concat]
    by_cases hfront : front = []
    · subst hfront
      have hzero : 10 * ofDigits [] + digitValue c = digitValue c := by simp [ofDigits]
      rw [hzero, digits, Nat.toDigits_of_lt_base hvalue, hlast, List.nil_append]
    · have hlonger : front ++ [c] ≠ ['0'] := by
        intro heq
        have hlength := congrArg List.length heq
        have hpos := List.length_pos_iff.mpr hfront
        simp only [List.length_append, List.length_singleton] at hlength
        omega
      have hhead : front.head? ≠ some '0' := by
        intro hzero
        refine hlonger (hlead ?_)
        rw [List.head?_append, hzero]
        rfl
      have hrest : digits (ofDigits front) = front :=
        ih (fun d hd => hdigits d (by simp [hd])) hfront fun hzero => absurd hzero hhead
      have hpos : 0 < ofDigits front := by
        refine Nat.pos_of_ne_zero fun hzero => hhead ?_
        rw [← hrest, hzero]
        rfl
      rw [digits, Nat.toDigits_of_base_le (by decide) (by omega),
        show (10 * ofDigits front + digitValue c) / 10 = ofDigits front by omega,
        show (10 * ofDigits front + digitValue c) % 10 = digitValue c by omega, hlast]
      exact congrArg (· ++ [c]) hrest

/-- Of so many digits, only one list denotes a number. -/
theorem eq_of_ofDigits_eq {ds es : List Char} (hds : ∀ c ∈ ds, c.isDigit = true)
    (hes : ∀ c ∈ es, c.isDigit = true) (hlength : ds.length = es.length)
    (h : ofDigits ds = ofDigits es) : ds = es := by
  -- With a one in front of them, both are the digits of the same number.
  have hdigits {fs : List Char} (hfs : ∀ c ∈ fs, c.isDigit = true) :
      digits (10 ^ fs.length + ofDigits fs) = '1' :: fs := by
    have hone : ofDigits ['1'] = 1 := by decide
    have hvalue : ofDigits ('1' :: fs) = 10 ^ fs.length + ofDigits fs := by
      rw [← List.singleton_append, ofDigits_append hfs, hone, Nat.mul_one]
    rw [← hvalue]
    refine digits_ofDigits (List.forall_mem_cons.mpr ⟨by decide, hfs⟩) (List.cons_ne_nil _ _) ?_
    intro hhead
    exact absurd (Option.some.inj hhead) (by decide)
  have hsame := hdigits hes
  rw [← hlength, ← h, hdigits hds] at hsame
  exact (List.cons.inj hsame).2

/-! ### Plain notation -/

/-- Digits of a positive number, whatever follows them, do not begin with zero. -/
theorem head_digits_append_ne_zero {n : Nat} (h : 0 < n) (rest : List Char) :
    (digits n ++ rest).head? ≠ some '0' := by
  obtain ⟨d, more, hdigits⟩ := List.exists_cons_of_ne_nil (digits_ne_nil n)
  have hhead := head_digits_ne_zero h
  rw [hdigits] at hhead ⊢
  exact hhead

namespace Decimal

/-- The digits that plain notation of a decimal shows on both sides of the point. -/
structure PlainParts (d : Decimal) (whole fraction : List Char) : Prop where
  /-- Plain notation shows them, and no point if none stand behind it. -/
  text : d.plain = whole ++ if fraction = [] then [] else '.' :: fraction
  /-- They are digits. -/
  isDigit : ∀ c ∈ whole ++ fraction, c.isDigit = true
  /-- One of them stands in front of the point. -/
  whole_ne_nil : whole ≠ []
  /-- A leading zero is alone there. -/
  leading : whole.head? = some '0' → whole = ['0']
  /-- They denote the coefficient, with the zeros that the exponent adds. -/
  ofDigits_eq : ofDigits (whole ++ fraction) = 10 ^ d.exponent.toNat * d.coefficient
  /-- There are as many behind the point as the exponent says. -/
  length_eq : fraction.length = (-d.exponent).toNat

/-- Plain notation of a decimal without places behind the point. -/
theorem plainParts_of_nonneg {d : Decimal} (h : 0 ≤ d.exponent) (hpos : 0 < d.coefficient) :
    d.PlainParts (digits d.coefficient ++ List.replicate d.exponent.toNat '0') [] where
  text := by
    unfold plain
    dsimp only
    rw [if_pos h, if_neg (Nat.ne_of_gt hpos), if_pos rfl, List.append_nil]
  isDigit := by
    intro c hc
    rw [List.append_nil] at hc
    rcases List.mem_append.mp hc with hdigit | hzero
    · exact isDigit_of_mem_digits hdigit
    · rw [List.eq_of_mem_replicate hzero]
      rfl
  whole_ne_nil := by simp
  leading hzero := absurd hzero (head_digits_append_ne_zero hpos _)
  ofDigits_eq := by rw [List.append_nil, ofDigits_append_replicate, ofDigits_digits]
  length_eq := by
    rw [List.length_nil]
    omega

/-- Plain notation of zero without places behind the point. -/
theorem plainParts_of_eq_zero {d : Decimal} (h : 0 ≤ d.exponent) (hzero : d.coefficient = 0) :
    d.PlainParts ['0'] [] where
  text := by
    unfold plain
    rw [if_pos h, if_pos hzero]
    rfl
  isDigit := List.forall_mem_singleton.mpr rfl
  whole_ne_nil := List.cons_ne_nil _ _
  leading _ := rfl
  ofDigits_eq := by
    rw [hzero, Nat.mul_zero]
    rfl
  length_eq := by
    rw [List.length_nil]
    omega

/-- Plain notation of a decimal with places behind the point: its digits, with as many zeros in
front as it takes for one to stand before the point. -/
theorem exists_plainParts_of_neg {d : Decimal} (h : d.exponent < 0) :
    ∃ whole fraction, d.PlainParts whole fraction := by
  obtain ⟨places, hplaces⟩ : ∃ places, places = (-d.exponent).toNat := ⟨_, rfl⟩
  obtain ⟨zeros, hzeros⟩ : ∃ zeros, zeros = places + 1 - (digits d.coefficient).length := ⟨_, rfl⟩
  obtain ⟨padded, hpadded⟩ :
      ∃ padded, padded = List.replicate zeros '0' ++ digits d.coefficient := ⟨_, rfl⟩
  have hlength : padded.length = zeros + (digits d.coefficient).length := by simp [hpadded]
  have hdigits : ∀ c ∈ digits d.coefficient, c.isDigit = true := fun _ => isDigit_of_mem_digits
  have hfraction : (padded.drop (padded.length - places)).length = places := by
    rw [List.length_drop]
    omega
  refine ⟨padded.take (padded.length - places), padded.drop (padded.length - places), ?_, ?_, ?_,
    fun hhead => ?_, ?_, hfraction.trans hplaces⟩
  · have hpoint : padded.drop (padded.length - places) ≠ [] := by
      rw [← List.length_pos_iff]
      omega
    unfold plain
    dsimp only
    rw [if_neg (by omega), if_neg hpoint, ← hplaces, ← hzeros, ← hpadded]
  · intro c hc
    rw [List.take_append_drop, hpadded] at hc
    rcases List.mem_append.mp hc with hzero | hdigit
    · rw [List.eq_of_mem_replicate hzero]
      rfl
    · exact hdigits c hdigit
  · rw [← List.length_pos_iff, List.length_take]
    omega
  · rcases Nat.eq_zero_or_pos zeros with hnone | hsome
    · -- Without zeros in front the number has digits of its own before the point.
      have hpos : 0 < d.coefficient := by
        refine Nat.pos_of_ne_zero fun hzero => ?_
        rw [hzero, show (digits 0).length = 1 from rfl] at hzeros
        omega
      rw [hnone, List.replicate_zero, List.nil_append] at hpadded
      rw [List.head?_take, if_neg (by omega), hpadded] at hhead
      exact absurd hhead (head_digits_ne_zero hpos)
    · rw [show padded.length - places = 1 by omega, hpadded,
        show zeros = zeros - 1 + 1 by omega, List.replicate_succ]
      rfl
  · rw [List.take_append_drop, hpadded, ofDigits_replicate_append zeros hdigits, ofDigits_digits,
      show d.exponent.toNat = 0 by omega, Nat.pow_zero, Nat.one_mul]

/-- Plain notation shows digits on both sides of the point, or no point. -/
theorem exists_plainParts (d : Decimal) : ∃ whole fraction, d.PlainParts whole fraction := by
  by_cases hexponent : 0 ≤ d.exponent
  · rcases Nat.eq_zero_or_pos d.coefficient with hzero | hpos
    · exact ⟨_, _, plainParts_of_eq_zero hexponent hzero⟩
    · exact ⟨_, _, plainParts_of_nonneg hexponent hpos⟩
  · exact exists_plainParts_of_neg (by omega)

end Decimal

end StyleTokens
