import StyleTokens.Number.Reading
import StyleTokens.Proofs.Number.Shown
import StyleTokens.Proofs.Text.Words

/-!
# Reading a number back

What is written of a number is a plain numeral of the value that is shown of its nearest double. It
is read as the double that is nearest to this value, and whatever that double is, it is written as
the same text again.
-/

namespace StyleTokens

namespace Binary64

/-- The exact value of a finite double is told by where it stands. -/
theorem toRat?_of_isFinite {x : Binary64} (h : x.isFinite = true) :
    x.toRat? = some ((x.position : ℚ) / unitsPerOne) := by
  cases x with
  | nan => cases h
  | infinite negative => cases h
  | finite negative units hunits => cases negative <;> rfl

/-- A whole number below `2 ^ 53` is the value of its nearest double. -/
theorem toRat?_ofInt {n : Int} (h : n.natAbs < 2 ^ 53) : (ofInt n).toRat? = some (n : ℚ) := by
  have hone : (unitsPerOne : ℚ) ≠ 0 := Nat.cast_ne_zero.mpr unitsPerOne_pos.ne'
  rw [toRat?_of_isFinite (isFinite_ofInt h), position_ofInt, rounded_mul_unitsPerOne h,
    Int.cast_mul, Int.cast_natCast, mul_div_cancel_right₀ _ hone]

/-- The nearest double of a whole number from `2 ^ 53` on is from there on, too. -/
theorem le_abs_toRat?_ofInt {n : Int} {q : ℚ} (h : 2 ^ 53 ≤ n.natAbs)
    (hq : (ofInt n).toRat? = some q) : 2 ^ 53 ≤ |q| := by
  have hone : (0 : ℚ) < unitsPerOne := Nat.cast_pos.mpr unitsPerOne_pos
  have hunit : (0 : Int) < unitsPerOne := Int.natCast_pos.mpr unitsPerOne_pos
  have hposition : 2 ^ 53 * (unitsPerOne : Int) ≤ |(ofInt n).position| := by
    rw [position_ofInt]
    rcases le_total 0 n with hpos | hneg
    · have hfar := le_rounded (mul_le_mul_of_nonneg_right (show 2 ^ 53 ≤ n by omega) hunit.le)
      exact hfar.trans (le_abs_self _)
    · have hbelow : n * (unitsPerOne : Int) ≤ -(2 ^ 53 * unitsPerOne) := by
        rw [← neg_mul]
        exact mul_le_mul_of_nonneg_right (by omega) hunit.le
      exact (le_neg_of_le_neg (rounded_le hbelow)).trans (neg_le_abs _)
  have hfinite : (ofInt n).isFinite = true := by
    cases hvalue : ofInt n with
    | nan => rw [hvalue] at hq; cases hq
    | infinite negative => rw [hvalue] at hq; cases hq
    | finite negative units hunits => rfl
  rw [toRat?_of_isFinite hfinite, Option.some.injEq] at hq
  rw [← hq, abs_div, abs_of_pos hone, le_div_iff₀ hone]
  exact_mod_cast hposition

end Binary64

namespace Number

/-- All digits are written of a double exactly if its value is a whole number up to
`2 ^ 53 - 1`. -/
theorem safeInteger?_float_iff {x : Binary64} {q : ℚ} (h : x.toRat? = some q) (n : Int) :
    (float x).safeInteger? = some n ↔ q = n ∧ n.natAbs ≤ maxSafeInteger := by
  cases x with
  | nan => cases h
  | infinite negative => cases h
  | finite negative units hunits =>
    have hone : (Binary64.unitsPerOne : ℚ) ≠ 0 := Nat.cast_ne_zero.mpr Binary64.unitsPerOne_pos.ne'
    rw [Binary64.toRat?_finite, Option.some.injEq] at h
    by_cases hdvd : Binary64.unitsPerOne ∣ units
    · obtain ⟨m, hm, htruncate, hvalue⟩ : ∃ m : Int,
          (Binary64.finite negative units hunits).isWhole = true ∧
          (Binary64.finite negative units hunits).truncate? = some m ∧ q = m := by
        obtain ⟨k, hk⟩ := hdvd
        have hwhole : units / Binary64.unitsPerOne = k := by
          rw [hk, Nat.mul_div_cancel_left k Binary64.unitsPerOne_pos]
        have hvalue : (units / Binary64.unitsPerOne : ℚ) = k := by
          rw [hk, Nat.cast_mul, mul_div_cancel_left₀ _ hone]
        refine ⟨if negative then -k else k, ?_, ?_, ?_⟩
        · rw [Binary64.isWhole, hk, Nat.mul_mod_right]
          rfl
        · cases negative
          · rw [Binary64.truncate?, hwhole, if_neg Bool.false_ne_true]
          · rw [Binary64.truncate?, hwhole, if_pos rfl]
        · rw [← h, hvalue]
          split_ifs
          · rw [Int.cast_neg, Int.cast_natCast]
          · rw [Int.cast_natCast]
      rw [safeInteger?, if_pos hm, htruncate, Option.filter_eq_some_iff, Option.some.injEq, hvalue,
        Int.cast_inj]
      simp
    · have hwhole : (Binary64.finite negative units hunits).isWhole = false := by
        simpa [Binary64.isWhole, Nat.dvd_iff_mod_eq_zero] using hdvd
      rw [safeInteger?, if_neg (by simp [hwhole])]
      refine iff_of_false (by simp) fun hn => hdvd ?_
      have hsize : |q| = units / Binary64.unitsPerOne := by
        rw [← h]
        split_ifs
        · rw [abs_neg, abs_of_nonneg (div_nonneg (Nat.cast_nonneg _) (Nat.cast_nonneg _))]
        · rw [abs_of_nonneg (div_nonneg (Nat.cast_nonneg _) (Nat.cast_nonneg _))]
      rw [hn.1, ← Int.cast_abs, Int.abs_eq_natAbs, Int.cast_natCast, eq_div_iff hone] at hsize
      exact ⟨n.natAbs, by rw [Nat.mul_comm]; exact_mod_cast hsize.symm⟩

/-- The text of a double is the plain numeral of what is shown of its value. -/
theorem exists_styleText_float {x : Binary64} {q : ℚ} (h : x.toRat? = some q) :
    ∃ m : Numeral, m.IsPlain ∧ (float x).styleText = .ok m.text ∧ IsShown q m.value := by
  by_cases hsafe : IsSafeInteger q
  · have hwhole := hsafe
    obtain ⟨n, hq, hn⟩ := hwhole
    have hdigits := (safeInteger?_float_iff h n).mpr ⟨hq, hn⟩
    refine ⟨.ofInt n, Numeral.isPlain_ofInt n, ?_, .whole hsafe (by rw [Numeral.value_ofInt, hq])⟩
    rw [styleText, hdigits, Numeral.text_ofInt]
  · have hnone : (float x).safeInteger? = none := by
      refine Option.eq_none_iff_forall_ne_some.mpr fun n hn => hsafe ?_
      obtain ⟨hq, hle⟩ := (safeInteger?_float_iff h n).mp hn
      exact ⟨n, hq, hle⟩
    have hne : q ≠ 0 := by
      rintro rfl
      exact hsafe isSafeInteger_zero
    obtain ⟨m, htext, hplain, -, hnearest⟩ := (significantText?_nearest h).2 hne
    refine ⟨m, hplain, ?_, .rounded hsafe hnearest⟩
    rw [styleText, hnone]
    exact htext

/-- A number is written like its nearest double. -/
theorem styleText_eq_float {n : Number} {x : Binary64} (h : n.toBinary64? = some x)
    (hfinite : x.isFinite = true) : n.styleText = (float x).styleText := by
  cases n with
  | float y =>
    cases h
    rfl
  | int k =>
    obtain rfl : Binary64.ofInt k = x := by
      unfold toBinary64? at h
      dsimp only at h
      split_ifs at h
      exact Option.some.inj h
    have hmax : maxSafeInteger = 2 ^ 53 - 1 := rfl
    by_cases hsafe : k.natAbs ≤ maxSafeInteger
    · have hvalue := Binary64.toRat?_ofInt (n := k) (by omega)
      have hfirst : (int k).safeInteger? = some k := if_pos hsafe
      have hsecond := (safeInteger?_float_iff hvalue k).mpr ⟨rfl, hsafe⟩
      rw [styleText, styleText, hfirst, hsecond]
    · have hfirst : (int k).safeInteger? = none := if_neg hsafe
      have hvalue := Binary64.toRat?_of_isFinite hfinite
      have hlarge := Binary64.le_abs_toRat?_ofInt (by omega) hvalue
      have hsecond : (float (Binary64.ofInt k)).safeInteger? = none := by
        refine Option.eq_none_iff_forall_ne_some.mpr fun n hn => ?_
        obtain ⟨hq, hle⟩ := (safeInteger?_float_iff hvalue n).mp hn
        rw [hq] at hlarge
        have hfar : 2 ^ 53 ≤ |n| := by exact_mod_cast hlarge
        rw [Int.abs_eq_natAbs] at hfar
        omega
      rw [styleText, styleText, hfirst, hsecond, h]
      rfl

/-! ### Reading numerals -/

/-- A digit is read as it is. -/
theorem asciiDigit_of_isDigit {c : Char} (h : c.isDigit = true) : asciiDigit c = c := by
  have hall : ∀ n < 10, asciiDigit (Nat.digitChar n) = Nat.digitChar n := by decide
  rw [← digitChar_digitValue h]
  exact hall _ (digitValue_lt c)

/-- Neither blanks nor digits of other scripts are in the text of a numeral. -/
theorem prepared_text (m : Numeral) : prepared m.text = m.text := by
  have hchars : ∀ c ∈ m.text, Text.isBlank c = false ∧ asciiDigit c = c := by
    intro c hc
    rcases m.mem_text hc with hdigit | rfl | rfl
    · exact ⟨isBlank_of_isDigit hdigit, asciiDigit_of_isDigit hdigit⟩
    · decide
    · decide
  have htrim : Text.trim m.text = m.text := by
    simpa using @Text.trim_append [] m.text [] (by simp) (by simp)
      (Text.trimmed_of_forall fun c hc => (hchars c hc).1)
  rw [prepared, htrim]
  exact (List.map_congr_left fun c hc => (hchars c hc).2).trans (List.map_id _)

/-- A numeral begins with a digit behind its sign. -/
theorem exists_unsigned_cons (m : Numeral) :
    ∃ c rest, m.unsigned = c :: rest ∧ c.isDigit = true := by
  obtain ⟨c, rest, hwhole⟩ := List.exists_cons_of_ne_nil m.whole_ne_nil
  have hc : c ∈ m.whole := by
    rw [hwhole]
    exact List.mem_cons_self
  exact ⟨c, _, by rw [Numeral.unsigned, hwhole, List.cons_append], m.isDigit_whole hc⟩

theorem readSign_text (m : Numeral) : readSign m.text = (m.negative, m.unsigned) := by
  obtain ⟨c, rest, hunsigned, hc⟩ := exists_unsigned_cons m
  rw [Numeral.text]
  cases m.negative with
  | true => rfl
  | false =>
    rw [if_neg Bool.false_ne_true, List.nil_append, hunsigned]
    have hminus : c ≠ '-' := by
      rintro rfl
      exact absurd hc (by decide)
    have hplus : c ≠ '+' := by
      rintro rfl
      exact absurd hc (by decide)
    exact readSign.eq_3 _ (fun _ heq => hminus (List.cons.inj heq).1)
      fun _ heq => hplus (List.cons.inj heq).1

theorem ne_underscore {c : Char} (h : c.isDigit = true) : c ≠ '_' := by
  rintro rfl
  exact absurd h (by decide)

/-- Digits are read up to the point or the end. -/
theorem readDigitRun_append {ds rest : List Char} (hds : ∀ c ∈ ds, c.isDigit = true)
    (hrest : ∀ c ∈ rest.head?, c = '.') : readDigitRun (ds ++ rest) = (ds, rest) := by
  induction ds with
  | nil =>
    cases rest with
    | nil => rfl
    | cons c rest =>
      obtain rfl : c = '.' := hrest c rfl
      rfl
  | cons c ds ih =>
    have hc := hds c List.mem_cons_self
    rw [List.cons_append, readDigitRun.eq_3 _ _ fun _ _ heq _ => ne_underscore hc heq,
      if_pos (by rwa [Text.isAsciiDigit_eq]), ih fun d hd => hds d (List.mem_cons_of_mem c hd)]

theorem readDigits_append {ds rest : List Char} (hne : ds ≠ []) (hds : ∀ c ∈ ds, c.isDigit = true)
    (hrest : ∀ c ∈ rest.head?, c = '.') : readDigits (ds ++ rest) = (ds, rest) := by
  obtain ⟨c, more, rfl⟩ := List.exists_cons_of_ne_nil hne
  have hc := ne_underscore (hds c List.mem_cons_self)
  rw [readDigits, if_neg (by simpa using hc), readDigitRun_append hds hrest]

/-- The digits of a numeral are read as the decimal that it denotes. -/
theorem readUnsigned?_unsigned (m : Numeral) : readUnsigned? m.unsigned = some m.decimal := by
  have hwhole : m.whole.isEmpty = false := by simpa using m.whole_ne_nil
  have hdigits : ∀ c ∈ m.whole, c.isDigit = true := fun c hc => m.isDigit_whole hc
  rw [Numeral.unsigned, readUnsigned?]
  by_cases hfraction : m.fraction = []
  · rw [if_pos hfraction, readDigits_append m.whole_ne_nil hdigits (by simp)]
    simp [hwhole, Numeral.decimal, hfraction, readExponent?]
  · have hrest : readDigits (m.fraction ++ []) = (m.fraction, []) :=
      readDigits_append hfraction (fun c hc => m.isDigit_fraction hc) (by simp)
    rw [List.append_nil] at hrest
    rw [if_neg hfraction, readDigits_append m.whole_ne_nil hdigits (by simp)]
    simp [hwhole, Numeral.decimal, hrest, readExponent?]

/-- A numeral is read as the double of the decimal that it denotes. -/
theorem readFloat?_text (m : Numeral) :
    readFloat? m.text = some (m.decimal.toBinary64 m.negative) := by
  obtain ⟨c, rest, hunsigned, hc⟩ := exists_unsigned_cons m
  have hword : ∀ word : List Char, word.head? = some 'i' ∨ word.head? = some 'n' →
      String.ofList (m.unsigned.map Char.toLower) ≠ String.ofList word := by
    have hall : ∀ n < 10, (Nat.digitChar n).toLower ≠ 'i' ∧ (Nat.digitChar n).toLower ≠ 'n' := by
      decide
    have hletter := hall _ (digitValue_lt c)
    rw [digitChar_digitValue hc] at hletter
    intro word hfirst hsame
    rw [← String.ofList_injective hsame, hunsigned, List.map_cons, List.head?_cons,
      Option.some.injEq, Option.some.injEq] at hfirst
    exact hfirst.elim hletter.1 hletter.2
  rw [readFloat?, prepared_text, readSign_text]
  dsimp only
  rw [if_neg, if_neg, readUnsigned?_unsigned]
  · rfl
  · exact hword "nan".toList (by decide)
  · exact not_or.mpr ⟨hword "inf".toList (by decide), hword "infinity".toList (by decide)⟩

/-- Reading back the text of a finite double, or of a whole number that has a nearest one, gives the
double that is nearest to what the text denotes. Whichever that is, its text is the same. -/
theorem styleText_readFloat? {n : Number} {x : Binary64} (h : n.toBinary64? = some x)
    (hfinite : x.isFinite = true) :
    ∃ m : Numeral, n.styleText = .ok m.text ∧
      (∃ d near, readFloat? m.text = some d ∧ d.toRat? = some near ∧
        IsNearestDouble m.value near) ∧
      ∀ d near, d.toRat? = some near → IsNearestDouble m.value near →
        (float d).styleText = .ok m.text := by
  have hvalue := Binary64.toRat?_of_isFinite hfinite
  generalize (x.position / Binary64.unitsPerOne : ℚ) = q at hvalue
  obtain ⟨m, hplain, htext, hshown⟩ := exists_styleText_float hvalue
  obtain ⟨hlow, hhigh⟩ := hshown.bounds ⟨x, hvalue⟩
  refine ⟨m, (styleText_eq_float h hfinite).trans htext, ?_, fun d near hd hnear => ?_⟩
  · have hzero (h : m.value = 0) : m.decimal.coefficient = 0 :=
      m.coefficient_decimal_eq_zero (by rw [← m.abs_value, h, abs_zero])
    rw [m.abs_value, ← m.value_decimal] at hlow hhigh
    obtain ⟨near, hread, hnear⟩ :=
      m.decimal.exists_nearest_toBinary64 m.negative (hlow.imp_left hzero) hhigh
    rw [m.value_decimal] at hnear
    exact ⟨_, near, readFloat?_text m, hread, hnear⟩
  · obtain ⟨again, hagain, hsame, hvalues⟩ := exists_styleText_float hd
    rw [hsame, hplain.eq_of_value_eq hagain
      (hshown.eq_of_isNearestDouble ⟨x, hvalue⟩ hnear hvalues).symm]

/-- The smallest double other than zero, of which fourteen digits are more than it has. -/
theorem styleText_readFloat?_smallest :
    ∃ m : Numeral,
      (float (.finite false 1 (Binary64.representable_of_le (by decide)))).styleText = .ok m.text ∧
      (∃ d near, readFloat? m.text = some d ∧ d.toRat? = some near ∧
        IsNearestDouble m.value near) ∧
      ∀ d near, d.toRat? = some near → IsNearestDouble m.value near →
        (float d).styleText = .ok m.text :=
  styleText_readFloat? (n := .float (.finite false 1 (Binary64.representable_of_le (by decide))))
    rfl rfl

end Number

end StyleTokens
