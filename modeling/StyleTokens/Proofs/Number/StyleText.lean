import Mathlib.Data.List.TakeWhile
import StyleTokens.Number.StyleText
import StyleTokens.Proofs.Number.Digits
import StyleTokens.Proofs.Number.Range

/-!
# The texts of numbers

A stylesheet shows every number but the endless ones. What it shows is never empty, and holds
digits, a sign and a point, or is the word for what is no number.
-/

namespace StyleTokens

namespace Decimal

/-- The characters of plain notation are digits and the point. -/
theorem mem_plain {d : Decimal} {c : Char} (h : c ∈ d.plain) : c.isDigit = true ∨ c = '.' := by
  obtain ⟨whole, fraction, hparts⟩ := d.exists_plainParts
  rw [hparts.text, List.mem_append] at h
  rcases h with hwhole | hrest
  · exact Or.inl (hparts.isDigit c (List.mem_append_left _ hwhole))
  · split_ifs at hrest
    · cases hrest
    · rcases List.mem_cons.mp hrest with hpoint | hfraction
      · exact Or.inr hpoint
      · exact Or.inl (hparts.isDigit c (List.mem_append_right _ hfraction))

/-- Plain notation begins with a digit. -/
theorem exists_plain_cons (d : Decimal) : ∃ c rest, d.plain = c :: rest ∧ c.isDigit = true := by
  obtain ⟨whole, fraction, hparts⟩ := d.exists_plainParts
  obtain ⟨c, more, rfl⟩ := List.exists_cons_of_ne_nil hparts.whole_ne_nil
  exact ⟨c, _, hparts.text, hparts.isDigit c (by simp)⟩

end Decimal

/-- Dropping zeros adds no character. -/
theorem mem_of_mem_dropFractionZeros {text : List Char} {c : Char}
    (h : c ∈ dropFractionZeros text) : c ∈ text := by
  unfold dropFractionZeros at h
  split_ifs at h
  · have hrest := (List.dropWhile_suffix _).subset (List.mem_reverse.mp h)
    exact List.mem_reverse.mp ((List.dropWhile_suffix _).subset hrest)
  · exact h

/-- Dropping zeros does not go beyond the point, so a digit in front of it stays. -/
theorem dropFractionZeros_ne_nil {c : Char} {rest : List Char} (h : c.isDigit = true) :
    dropFractionZeros (c :: rest) ≠ [] := by
  have hpoint : c ≠ '.' := by
    rintro rfl
    exact absurd h (by decide)
  unfold dropFractionZeros
  split_ifs with hcontains
  · have hmem : '.' ∈ rest := by simpa [hpoint.symm] using hcontains
    have hstop : ¬(rest.reverse.dropWhile (· == '0')).isEmpty = true := by
      rw [List.isEmpty_iff, List.dropWhile_eq_nil_iff]
      exact fun hzeros => absurd (hzeros '.' (List.mem_reverse.mpr hmem)) (by decide)
    rw [List.reverse_cons, List.dropWhile_append, if_neg hstop, ne_eq, List.reverse_eq_nil_iff,
      List.dropWhile_eq_nil_iff]
    exact fun hpoints => hpoint (by simpa using hpoints c (by simp))
  · exact List.cons_ne_nil c rest

/-- A character that may stand in the text of a number. -/
def IsStyleDigit (c : Char) : Prop := c.isDigit = true ∨ c ∈ ['-', '.', 'N', 'a']

/-- A text as a number may have it: it is not empty and holds no other characters. -/
def IsStyleNumber (text : List Char) : Prop := text ≠ [] ∧ ∀ c ∈ text, IsStyleDigit c

theorem isStyleNumber_zero : IsStyleNumber ['0'] :=
  ⟨by decide, fun c hc => Or.inl (by rw [List.mem_singleton.mp hc]; decide)⟩

/-- The texts of decimals, possibly with a sign, are such texts. -/
theorem isStyleNumber_plain (negative : Bool) (d : Decimal) :
    IsStyleNumber ((if negative then ['-'] else []) ++ dropFractionZeros d.plain) := by
  constructor
  · obtain ⟨c, rest, hplain, hc⟩ := d.exists_plain_cons
    rw [hplain]
    exact List.append_ne_nil_of_right_ne_nil _ (dropFractionZeros_ne_nil hc)
  · intro c hc
    rcases List.mem_append.mp hc with hsign | hplain
    · cases negative with
      | false => cases hsign
      | true =>
        rw [List.mem_singleton.mp hsign]
        exact Or.inr (by decide)
    · rcases Decimal.mem_plain (mem_of_mem_dropFractionZeros hplain) with hdigit | rfl
      · exact Or.inl hdigit
      · exact Or.inr (by decide)

/-- The digits of whole numbers are such texts. -/
theorem isStyleNumber_intDigits (n : Int) : IsStyleNumber (intDigits n) := by
  cases n with
  | ofNat n => exact ⟨digits_ne_nil n, fun c hc => Or.inl (isDigit_of_mem_digits hc)⟩
  | negSucc n =>
    refine ⟨List.cons_ne_nil _ _, fun c hc => ?_⟩
    rcases List.mem_cons.mp hc with rfl | hdigit
    · exact Or.inr (by decide)
    · exact Or.inl (isDigit_of_mem_digits hdigit)

namespace Number

/-- Exactly the infinite doubles have no fourteen significant digits. -/
theorem significantText?_float_fault_iff {x : Binary64} :
    (∃ fault, (Number.float x).significantText? = .error fault) ↔
      ∃ negative, x = .infinite negative := by
  cases x with
  | nan => simp [significantText?]
  | infinite negative => simp [significantText?]
  | finite negative units hunits => simp only [significantText?, reduceCtorEq, exists_false]

/-- A number of which all digits are shown is not endless. -/
theorem not_isEndless_of_safeInteger? {n : Number} {m : Int} (h : n.safeInteger? = some m) :
    ¬n.IsEndless := by
  cases n with
  | int k =>
    have hsafe : maxSafeInteger < 2 ^ 53 := by decide
    unfold safeInteger? at h
    dsimp only at h
    split_ifs at h with hle
    exact not_not_intro (inDoubleRange_of_lt (Nat.lt_of_le_of_lt hle hsafe))
  | float x =>
    rintro ⟨negative, rfl⟩
    cases h

/-- Exactly the endless numbers are not shown. -/
theorem styleText_fault_iff {n : Number} :
    (∃ fault, n.styleText = .error fault) ↔ n.IsEndless := by
  unfold styleText
  cases hsafe : n.safeInteger? with
  | some m => simp [not_isEndless_of_safeInteger? hsafe]
  | none =>
    cases n with
    | int k =>
      have hnearest : (Number.int k).toBinary64? =
          if InDoubleRange k then some (Binary64.ofInt k) else none := rfl
      by_cases hrange : InDoubleRange k
      · rw [hnearest, if_pos hrange]
        dsimp only
        rw [significantText?_float_fault_iff]
        refine iff_of_false ?_ (not_not_intro hrange)
        rintro ⟨negative, hinfinite⟩
        rw [InDoubleRange, hinfinite] at hrange
        cases hrange
      · rw [hnearest, if_neg hrange]
        exact iff_of_true ⟨_, rfl⟩ hrange
    | float x => exact significantText?_float_fault_iff

/-- The significant digits of a double are such a text. -/
theorem isStyleNumber_of_significantText? {x : Binary64} {text : List Char}
    (h : (Number.float x).significantText? = .ok text) : IsStyleNumber text := by
  cases x with
  | nan =>
    cases h
    have hword : ['N', 'a', 'N'] ⊆ ['-', '.', 'N', 'a'] := by simp
    exact ⟨by decide, fun c hc => Or.inr (hword hc)⟩
  | infinite negative => cases h
  | finite negative units hunits =>
    obtain rfl : significantText negative units = text := Except.ok.inj h
    unfold significantText
    by_cases hzero : units = 0
    · rw [if_pos hzero]
      exact isStyleNumber_zero
    · rw [if_neg hzero]
      exact isStyleNumber_plain _ _

/-- What a stylesheet shows of a number is such a text. -/
theorem isStyleNumber_of_styleText {n : Number} {text : List Char}
    (h : n.styleText = .ok text) : IsStyleNumber text := by
  unfold styleText at h
  cases hsafe : n.safeInteger? with
  | some m =>
    rw [hsafe] at h
    cases h
    exact isStyleNumber_intDigits m
  | none =>
    rw [hsafe] at h
    cases hnearest : n.toBinary64? with
    | some x =>
      rw [hnearest] at h
      exact isStyleNumber_of_significantText? h
    | none =>
      rw [hnearest] at h
      cases h

end Number

end StyleTokens
