import StyleTokens.Preset.Declaration
import StyleTokens.Proofs.Number.RelativeError
import StyleTokens.Proofs.Outcome
import StyleTokens.Proofs.Text.Markup

/-!
# Letter spacing in percent

Letter spacing in percent is written as a length in `em`: a hundredth of it, computed in doubles.
Reading the percentage, the hundredth and the product are each rounded, and the result is cut to
fourteen digits; for every percentage of at most fourteen digits this is its exact hundredth.
-/

namespace StyleTokens

namespace Numeral

/-- A numeral is read as the decimal that it denotes. -/
theorem readDecimal?_text (n : Numeral) : readDecimal? n.text = some (n.negative, n.decimal) := by
  have hsign : (n.text.head? == some '-') = n.negative := by
    rw [Bool.eq_iff_iff, beq_iff_eq, n.head_text]
  have hunsigned : (if n.negative then n.text.drop 1 else n.text) = n.unsigned := by
    cases hnegative : n.negative <;> simp [text, hnegative]
  have hwhole : n.unsigned.takeWhile Text.isAsciiDigit = n.whole := by
    have hdigits : ∀ c ∈ n.whole, Text.isAsciiDigit c = true := fun c hc => by
      rw [Text.isAsciiDigit_eq]
      exact isDigit_whole hc
    unfold unsigned
    rw [List.takeWhile_append_of_pos hdigits]
    split_ifs <;> simp [Char.isDigit]
  have hrest : n.unsigned.drop n.whole.length =
      if n.fraction = [] then [] else '.' :: n.fraction := List.drop_left ..
  unfold readDecimal?
  dsimp only
  rw [hsign, hunsigned, hwhole, hrest]
  by_cases hfraction : n.fraction = []
  · simp [hfraction, n.whole_ne_nil, decimal]
  · have hdigits : ∀ c ∈ n.fraction, c.isDigit = true := fun c hc => isDigit_fraction hc
    simpa [hfraction, n.whole_ne_nil, decimal] using hdigits

end Numeral

/-- A numeral with a percent sign behind it is read as that numeral. -/
theorem percentage?_text (n : Numeral) :
    percentage? (n.text ++ ['%']) = some (n.negative, n.decimal) := by
  simp [percentage?, n.readDecimal?_text]

/-- A hundredth of a decimal, computed in doubles, is near to the exact one. -/
theorem exists_finite_mul_hundredth (negative : Bool) {d : Decimal} {a b : ℕ} (ha : a ≤ 297)
    (hb : b ≤ 300) (hlow : (10 : ℚ) ^ (-a : ℤ) ≤ d.value) (hhigh : d.value ≤ 10 ^ b) :
    ∃ units, ∃ h : Binary64.Representable units,
      (d.toBinary64 negative).mul ((Decimal.mk 1 (-2)).toBinary64 false) =
        .finite negative units h ∧
      IsWithin (1 / 2 ^ 51) (d.value / 100) (units / Binary64.unitsPerOne) := by
  have hpos : 0 < d.value := lt_of_lt_of_le (by positivity) hlow
  have hcent : (Decimal.mk 1 (-2)).value = 1 / 100 := by norm_num [Decimal.value]
  obtain ⟨m, hm, hread, hnear⟩ :=
    d.exists_finite_toBinary64 negative (show a ≤ 300 by omega) hb hlow hhigh
  obtain ⟨n, hn, -, hone, hhundredth⟩ := Decimal.exists_toBinary64_hundredth
  have hcentNear : IsWithin (1 / 2 ^ 53) (1 / 100) (n / Binary64.unitsPerOne) := by
    obtain ⟨units, hunits, hsame, hwithin⟩ :=
      (Decimal.mk 1 (-2)).exists_finite_toBinary64 false (show 2 ≤ 300 by decide)
        (show 0 ≤ 300 by decide) (by norm_num [hcent]) (by norm_num [hcent])
    rw [hhundredth] at hsame
    rw [hcent] at hwithin
    obtain rfl : n = units := by injection hsame
    exact hwithin
  have hproduct := hnear.mul hcentNear hpos.le (by norm_num) (by norm_num)
  generalize hx : (m : ℚ) / Binary64.unitsPerOne = x at *
  generalize hy : (n : ℚ) / Binary64.unitsPerOne = y at *
  have hlow' : (10 : ℚ) ^ (-(a + 3 : ℕ) : ℤ) ≤ x * y := by
    have hbelow := hproduct.sub_le
    rw [Nat.cast_add, neg_add, zpow_add₀ (by norm_num)]
    have : (10 : ℚ) ^ (-(3 : ℕ) : ℤ) = 1 / 1000 := by norm_num
    rw [this]
    linarith
  obtain ⟨units, hunits, hmul, hlast⟩ := Binary64.exists_finite_mul (s := negative) (t := false) hm
    hn hone (by
      rw [hx, hy]
      exact Binary64.two_pow_le_mul_unitsPerOne (by omega) hlow')
  rw [hx, hy] at hlast
  refine ⟨units, hunits, ?_, ?_⟩
  · rw [hread, hhundredth, hmul, Bool.bne_false]
  · rw [div_eq_mul_one_div d.value]
    exact (hproduct.trans hlast (by norm_num)).mono (by positivity) (by norm_num)

/-- A hundredth of zero is a zero. -/
theorem exists_mul_hundredth_zero (negative : Bool) {d : Decimal} (h : d.coefficient = 0) :
    ∃ hzero : Binary64.Representable 0,
      (d.toBinary64 negative).mul ((Decimal.mk 1 (-2)).toBinary64 false) =
        .finite negative 0 hzero := by
  obtain ⟨n, hn, -, hone, hhundredth⟩ := Decimal.exists_toBinary64_hundredth
  have hzero : Binary64.Representable 0 := ⟨Binary64.unitsLimit_pos, 0, 0, by decide, rfl⟩
  refine ⟨hzero, ?_⟩
  have hread : d.toBinary64 negative = .finite negative 0 hzero := by
    unfold Decimal.toBinary64
    dsimp only
    rw [if_pos (Or.inl h)]
    exact Binary64.ofUnits_of_representable negative hzero (Binary64.nearestUnits_one hzero)
  rw [hread, hhundredth, Binary64.mul, Nat.zero_mul, Bool.bne_false]
  refine Binary64.ofUnits_of_representable negative hzero ?_
  exact Nat.le_zero.mp (Binary64.nearestUnits_le hzero Binary64.unitsPerOne_pos (Nat.zero_le _))

/-- A hundredth of a numeral of at most fourteen digits, other than zero, is written as the plain
numeral of its exact value. -/
theorem emLength_of_ne_zero (n : Numeral) {c a b : ℕ} {e : ℤ} (ha : a ≤ 297) (hb : b ≤ 300)
    (hc : c < 10 ^ 14) (hdigits : n.magnitude = c * 10 ^ e)
    (hlow : (10 : ℚ) ^ (-a : ℤ) ≤ n.magnitude) (hhigh : n.magnitude ≤ 10 ^ b) :
    ∃ m : Numeral, m.IsPlain ∧ m.value = n.value / 100 ∧
      emLength n.negative n.decimal = .ok (String.ofList m.text ++ "em") := by
  rw [← n.value_decimal] at hdigits hlow hhigh
  have hpos : 0 < n.decimal.value := lt_of_lt_of_le (by positivity) hlow
  obtain ⟨units, hunits, hproduct, hnear⟩ :=
    exists_finite_mul_hundredth n.negative ha hb hlow hhigh
  have hne : units ≠ 0 := by
    rintro rfl
    have := hnear.sub_le
    rw [Nat.cast_zero, zero_div] at this
    linarith
  obtain ⟨m, hplain, hsign, htext, hnearest⟩ := exists_plain_significantText n.negative hne
  have hhundredth : n.decimal.value / 100 = c * 10 ^ (e - 2) := by
    rw [hdigits, zpow_sub₀ (by norm_num), mul_div_assoc]
    norm_num
  have hmagnitude : m.magnitude = n.decimal.value / 100 :=
    hnearest.eq_of_isWithin hc hhundredth (by linarith) (hnear.mono (by positivity) (by norm_num))
  refine ⟨m, hplain, ?_, ?_⟩
  · rw [Numeral.value, Numeral.value, hsign, hmagnitude, n.value_decimal]
    split_ifs
    · exact (neg_div _ _).symm
    · rfl
  · unfold emLength
    dsimp only
    rw [hproduct, Number.significantText?, htext]
    rfl

/-- A hundredth of zero is written without a sign. -/
theorem emLength_zero (n : Numeral) (h : n.magnitude = 0) :
    emLength n.negative n.decimal = .ok (String.ofList Numeral.zero.text ++ "em") := by
  obtain ⟨hzero, hproduct⟩ :=
    exists_mul_hundredth_zero n.negative (n.coefficient_decimal_eq_zero h)
  unfold emLength
  dsimp only
  rw [hproduct, Number.significantText?, significantText, if_pos rfl]
  rfl

/-- Numerals hold no markup character. -/
theorem Numeral.noMarkup_text (n : Numeral) : Text.NoMarkup n.text := by
  intro c hc
  rcases n.mem_text hc with hdigit | rfl | rfl
  · by_contra hmarkup
    rw [Bool.not_eq_false, Text.isMarkup] at hmarkup
    simp only [Bool.or_eq_true, beq_iff_eq] at hmarkup
    rcases hmarkup with ((rfl | rfl) | rfl) | rfl <;> exact absurd hdigit (by decide)
  · decide
  · decide

/-- A text without markup keeps all its characters. -/
theorem Text.stripMarkupString_of_noMarkup {text : String} (h : NoMarkup text.toList) :
    stripMarkupString text = text := by
  have hkept : stripMarkup text.toList = text.toList :=
    List.filter_eq_self.mpr fun c hc => by rw [h c hc]; rfl
  rw [stripMarkupString, hkept, String.ofList_toList]

/-- What is written for a percentage as letter spacing is its length. -/
theorem declarationValue_percentage (n : Numeral) {length : String}
    (h : emLength n.negative n.decimal = .ok length) (hmarkup : Text.NoMarkup length.toList)
    (hne : length ≠ "") :
    declarationValue "letter-spacing" (.scalar (.str (String.ofList (n.text ++ ['%'])))) =
      .ok (some length) := by
  have hpercentage := percentage?_text n
  rw [← String.toList_ofList (l := n.text ++ ['%'])] at hpercentage
  generalize String.ofList (n.text ++ ['%']) = text at *
  have hblank : ¬blankWords.contains text = true := by
    intro hmem
    simp only [blankWords, List.contains_iff_mem, List.mem_cons, List.not_mem_nil, or_false] at hmem
    rcases hmem with rfl | rfl | rfl <;> cases hpercentage
  have htext : propertyText "letter-spacing" text = .ok length := by
    unfold propertyText
    rw [if_neg fun hauto => absurd hauto.1 (by decide), if_pos rfl, hpercentage]
    exact h
  have hkept := Text.stripMarkupString_of_noMarkup hmarkup
  unfold declarationValue
  rw [show rawText? (.scalar (.str text)) = .ok (some text) from rfl, ok_bind]
  dsimp only
  rw [if_neg hblank, htext, ok_bind, hkept, if_neg (by simpa using hne)]
  rfl

/-- Letter spacing in percent is written as the exact hundredth in plain notation, for every
percentage of at most fourteen digits that is zero or neither too small nor too large. -/
theorem declarationValue_letterSpacing (n : Numeral)
    (hdigits : ∃ c : ℕ, ∃ e : ℤ, c < 10 ^ 14 ∧ |n.value| = c * 10 ^ e)
    (hrange : n.value = 0 ∨ (10 : ℚ) ^ (-290 : ℤ) ≤ |n.value| ∧ |n.value| ≤ 10 ^ 290) :
    ∃ m : Numeral, m.IsPlain ∧ m.value = n.value / 100 ∧
      declarationValue "letter-spacing" (.scalar (.str (String.ofList (n.text ++ ['%'])))) =
        .ok (some (String.ofList m.text ++ "em")) := by
  obtain ⟨c, e, hc, hvalue⟩ := hdigits
  rw [n.abs_value] at hvalue hrange
  have hlength : ∃ m : Numeral, m.IsPlain ∧ m.value = n.value / 100 ∧
      emLength n.negative n.decimal = .ok (String.ofList m.text ++ "em") := by
    rcases hrange with hzero | ⟨hlow, hhigh⟩
    · have hmagnitude : n.magnitude = 0 := by rw [← n.abs_value, hzero, abs_zero]
      refine ⟨.zero, Numeral.isPlain_zero, ?_, emLength_zero n hmagnitude⟩
      rw [hzero, Numeral.value_zero, zero_div]
    · exact emLength_of_ne_zero n (a := 290) (by decide) (by decide) hc hvalue hlow hhigh
  obtain ⟨m, hplain, hhundredth, htext⟩ := hlength
  refine ⟨m, hplain, hhundredth, declarationValue_percentage n htext ?_ ?_⟩
  · simp [String.toList_append, m.noMarkup_text, Text.isMarkup]
  · intro hempty
    have := congrArg String.toList hempty
    simp [String.toList_append] at this

/-- The double nearest to fifty-seven times the one nearest to a hundredth is not the one nearest to
the product, and yet the length shows none of it. -/
theorem declarationValue_letterSpacing_fiftySeven :
    ∃ m : Numeral, m.IsPlain ∧ m.value = -57 / 100 ∧
      declarationValue "letter-spacing" (.scalar (.str "-57.0%")) =
        .ok (some (String.ofList m.text ++ "em")) := by
  have hdigits : ∀ c ∈ ['5', '7'] ++ ['0'], c.isDigit = true := by
    simp [Char.isDigit]
  have hvalue : (Numeral.mk true ['5', '7'] ['0'] (by decide) hdigits).value = -57 := by
    have hread : ofDigits ['5', '7', '0'] = 570 := by decide
    norm_num [Numeral.value, Numeral.magnitude, hread]
  have hsmall : (10 : ℚ) ^ (-290 : ℤ) ≤ 1 := zpow_le_one_of_nonpos₀ (by norm_num) (by decide)
  have hlarge : (57 : ℚ) ≤ 10 ^ 290 :=
    (show (57 : ℚ) ≤ 10 ^ 2 by norm_num).trans (pow_le_pow_right₀ (by norm_num) (by decide))
  have hsize : |(-57 : ℚ)| = 57 := by norm_num
  have hspacing := declarationValue_letterSpacing
    (Numeral.mk true ['5', '7'] ['0'] (by decide) hdigits)
    ⟨57, 0, by decide, by rw [hvalue, hsize]; norm_num⟩
    (Or.inr (by rw [hvalue, hsize]; exact ⟨hsmall.trans (by norm_num), hlarge⟩))
  rw [hvalue] at hspacing
  exact hspacing

example : declarationValue "letter-spacing" (.scalar (.str "-57.0%")) = .ok (some "-0.57em") := by
  decide +kernel

end StyleTokens
