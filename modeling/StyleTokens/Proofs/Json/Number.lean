import Mathlib.Data.List.TakeDrop
import StyleTokens.Json.Parser
import StyleTokens.Proofs.Number.Shortest

/-!
# Numbers of a document are read back

A number in a document is followed by a separator, a closing bracket or nothing. In front of these
its text is read as that number: a whole number digit by digit, a double as the decimal that its
text shows.
-/

namespace StyleTokens.Json

/-- What may follow a value: nothing, a comma or a closing bracket. -/
def Delimited (rest : List Char) : Prop :=
  ∀ c ∈ rest.head?, c = ',' ∨ c = ']' ∨ c = '\x7d'

/-- No character of a text that begins here is in a class of characters. -/
def BeginsOutside (p : Char → Bool) (text : List Char) : Prop := ∀ c ∈ text.head?, p c = false

theorem BeginsOutside.cons {p : Char → Bool} {c : Char} (h : p c = false) (text : List Char) :
    BeginsOutside p (c :: text) := by
  intro d hd
  rw [List.head?_cons, Option.mem_some_iff] at hd
  rwa [← hd]

/-- What follows a value continues no number. -/
theorem Delimited.beginsOutside {p : Char → Bool} {rest : List Char} (h : Delimited rest)
    (hcomma : p ',' = false) (hbracket : p ']' = false) (hbrace : p '\x7d' = false) :
    BeginsOutside p rest := by
  intro c hc
  rcases h c hc with rfl | rfl | rfl
  · exact hcomma
  · exact hbracket
  · exact hbrace

theorem Delimited.noDigit {rest : List Char} (h : Delimited rest) :
    BeginsOutside Char.isDigit rest :=
  h.beginsOutside (by decide) (by decide) (by decide)

/-- Digits are read up to the first character that is none. -/
theorem spanDigits_append {ds rest : List Char} (hds : ∀ c ∈ ds, c.isDigit = true)
    (hrest : BeginsOutside Char.isDigit rest) : spanDigits (ds ++ rest) = (ds, rest) := by
  rw [spanDigits, List.span_eq_takeWhile_dropWhile, List.takeWhile_append_of_pos hds,
    List.dropWhile_append_of_pos hds]
  cases rest with
  | nil => simp
  | cons c rest =>
    have hc : c.isDigit = false := hrest c (by simp)
    simp [hc]

/-- The digits of a whole part: none at all are missing, and a zero in front stands alone. -/
structure IsWhole (ds : List Char) : Prop where
  /-- There are only digits. -/
  digits : ∀ c ∈ ds, c.isDigit = true
  /-- There is a digit. -/
  ne_nil : ds ≠ []
  /-- A leading zero is alone. -/
  leading : ds = ['0'] ∨ ds.head? ≠ some '0'

/-- A whole part is read as it is. -/
theorem readWhole_append {ds rest : List Char} (hds : IsWhole ds)
    (hrest : BeginsOutside Char.isDigit rest) : readWhole (ds ++ rest) = some (ds, rest) := by
  rcases hds.leading with rfl | hhead
  · rfl
  obtain ⟨d, more, rfl⟩ := List.exists_cons_of_ne_nil hds.ne_nil
  have hd : d ≠ '0' := by simpa using hhead
  have hspan := spanDigits_append hds.digits hrest
  unfold readWhole
  split
  · rename_i heq
    rw [List.cons_append, List.cons.injEq] at heq
    exact absurd heq.1 hd
  · rw [hspan]

/-- A fraction is read as it is. -/
theorem readFraction_append {ds rest : List Char} (hds : ∀ c ∈ ds, c.isDigit = true)
    (hne : ds ≠ []) (hrest : BeginsOutside Char.isDigit rest) :
    readFraction ('.' :: (ds ++ rest)) = some (ds, rest) := by
  obtain ⟨d, more, rfl⟩ := List.exists_cons_of_ne_nil hne
  rw [readFraction, spanDigits_append hds hrest]

/-- Without a point there is no fraction. -/
theorem readFraction_eq_none {text : List Char} (h : BeginsOutside (· == '.') text) :
    readFraction text = none := by
  unfold readFraction
  split
  · exact absurd (h '.' (by simp)) (by simp)
  · rfl

/-- The sign of an exponent. -/
def exponentSign (negative : Bool) : Char := if negative then '-' else '+'

/-- An exponent with its sign. -/
def signedExponent (negative : Bool) (ds : List Char) : Int :=
  if negative then -(ofDigits ds : Int) else ofDigits ds

/-- An exponent is read as it is. -/
theorem readExponent_append (negative : Bool) {ds rest : List Char}
    (hds : ∀ c ∈ ds, c.isDigit = true) (hne : ds ≠ [])
    (hrest : BeginsOutside Char.isDigit rest) :
    readExponent ('e' :: exponentSign negative :: (ds ++ rest)) =
      some (signedExponent negative ds, rest) := by
  obtain ⟨d, more, rfl⟩ := List.exists_cons_of_ne_nil hne
  have hspan := spanDigits_append hds hrest
  rw [List.cons_append] at hspan
  cases negative <;> simp [readExponent, exponentSign, signedExponent, hspan]

/-- Without its letter there is no exponent. -/
theorem readExponent_eq_none {text : List Char}
    (h : BeginsOutside (fun c => c == 'e' || c == 'E') text) : readExponent text = none := by
  cases text with
  | nil => rfl
  | cons c rest =>
    have hc : ¬(c = 'e' ∨ c = 'E') := by simpa using h c (by simp)
    unfold readExponent
    exact if_neg hc

/-- Digits without a fraction and an exponent are a whole number. -/
theorem readUnsigned_whole (negative : Bool) {ds rest : List Char} (hds : IsWhole ds)
    (hlimit : ds.length ≤ digitLimit) (hrest : Delimited rest) :
    readUnsigned negative (ds ++ rest) =
      .ok (.int (if negative then -(ofDigits ds : Int) else ofDigits ds), rest) := by
  have hfraction : readFraction rest = none :=
    readFraction_eq_none (hrest.beginsOutside (by decide) (by decide) (by decide))
  have hexponent : readExponent rest = none :=
    readExponent_eq_none (hrest.beginsOutside (by decide) (by decide) (by decide))
  unfold readUnsigned
  rw [readWhole_append hds hrest.noDigit]
  simp [hfraction, hexponent, Nat.not_lt.mpr hlimit]

/-- Digits with a fraction are a decimal. -/
theorem readUnsigned_fraction (negative : Bool) {ds fraction rest : List Char} (hds : IsWhole ds)
    (hfraction : ∀ c ∈ fraction, c.isDigit = true) (hne : fraction ≠ []) (hrest : Delimited rest) :
    readUnsigned negative (ds ++ '.' :: (fraction ++ rest)) =
      .ok (.float ((Decimal.mk (ofDigits (ds ++ fraction)) (-fraction.length)).toBinary64 negative),
        rest) := by
  have hexponent : readExponent rest = none :=
    readExponent_eq_none (hrest.beginsOutside (by decide) (by decide) (by decide))
  unfold readUnsigned
  rw [readWhole_append hds (BeginsOutside.cons (by decide) _)]
  simp only [readFraction_append hfraction hne hrest.noDigit, Option.getD_some, hexponent,
    Option.getD_none]
  rw [if_neg (by simp; omega), Int.zero_sub]

/-- A point with the digits behind it, if there are any. -/
def fractionText (fraction : List Char) : List Char :=
  if fraction.isEmpty then [] else '.' :: fraction

/-- Digits with an exponent, and possibly with a fraction, are a decimal. -/
theorem readUnsigned_exponent (negative down : Bool) {ds fraction power rest : List Char}
    (hds : IsWhole ds) (hfraction : ∀ c ∈ fraction, c.isDigit = true)
    (hpower : ∀ c ∈ power, c.isDigit = true) (hne : power ≠ []) (hrest : Delimited rest) :
    readUnsigned negative
        (ds ++ (fractionText fraction ++ 'e' :: exponentSign down :: (power ++ rest))) =
      .ok (.float ((Decimal.mk (ofDigits (ds ++ fraction))
        (signedExponent down power - fraction.length)).toBinary64 negative), rest) := by
  have hexponent := readExponent_append down hpower hne hrest.noDigit
  have hletter : ∀ text, BeginsOutside Char.isDigit ('e' :: text) :=
    fun text => BeginsOutside.cons (by decide) text
  unfold readUnsigned
  cases fraction with
  | nil =>
    have hnone : readFraction ('e' :: exponentSign down :: (power ++ rest)) = none :=
      readFraction_eq_none (BeginsOutside.cons (by decide) _)
    simp only [fractionText, List.isEmpty_nil, if_true, List.nil_append,
      readWhole_append hds (hletter _), hnone, Option.getD_none, hexponent, Option.getD_some]
    rw [if_neg (by simp; omega)]
  | cons f fs =>
    have hsome := readFraction_append hfraction (by simp)
      (hletter (exponentSign down :: (power ++ rest)))
    simp only [fractionText, List.isEmpty_cons, Bool.false_eq_true, if_false, List.cons_append,
      readWhole_append hds (BeginsOutside.cons (show Char.isDigit '.' = false by decide) _)]
    rw [← List.cons_append, hsome]
    simp only [Option.getD_some, hexponent]
    rw [if_neg (by simp; omega)]

/-- The digits of a number are a whole part. -/
theorem isWhole_digits (n : Nat) : IsWhole (digits n) where
  digits := fun _ => isDigit_of_mem_digits
  ne_nil := digits_ne_nil n
  leading := by
    rcases Nat.eq_zero_or_pos n with rfl | hpos
    · exact .inl rfl
    · exact .inr (head_digits_ne_zero hpos)

/-- What plain notation shows in front of the point is a whole part. -/
theorem isWhole_of_plainParts {d : Decimal} {ds fraction : List Char}
    (h : d.PlainParts ds fraction) : IsWhole ds where
  digits c hc := h.isDigit c (List.mem_append_left _ hc)
  ne_nil := h.whole_ne_nil
  leading := by
    by_cases hzero : ds.head? = some '0'
    · exact .inl (h.leading hzero)
    · exact .inr hzero

/-- Plain notation, a zero behind the point if there is no point, is read as the decimal. -/
theorem readUnsigned_positional (negative : Bool) (d : Decimal) {rest : List Char}
    (hrest : Delimited rest) :
    readUnsigned negative
        ((if d.plain.contains '.' then d.plain else d.plain ++ ['.', '0']) ++ rest) =
      .ok (.float (d.toBinary64 negative), rest) := by
  obtain ⟨ds, fraction, hparts⟩ := d.exists_plainParts
  have hwhole := isWhole_of_plainParts hparts
  have hfraction : ∀ c ∈ fraction, c.isDigit = true :=
    fun c hc => hparts.isDigit c (List.mem_append_right _ hc)
  have hplain := hparts.text
  have hvalue := hparts.ofDigits_eq
  have hlength := hparts.length_eq
  by_cases hnone : fraction = []
  · subst hnone
    rw [if_pos rfl, List.append_nil] at hplain
    rw [List.append_nil] at hvalue
    rw [List.length_nil] at hlength
    have hpoint : ¬d.plain.contains '.' = true := by
      rw [hplain, List.contains_iff_mem]
      intro hmem
      exact absurd (hwhole.digits '.' hmem) (by decide)
    have hzero : ∀ c ∈ ['0'], c.isDigit = true := by simp
    have hread := readUnsigned_fraction negative hwhole hzero (by simp) hrest
    have hshifted : ofDigits (ds ++ ['0']) = 10 ^ (d.exponent.toNat + 1) * d.coefficient := by
      rw [← List.replicate_one, ofDigits_append_replicate, hvalue, ← Nat.mul_assoc, ← Nat.pow_add,
        Nat.add_comm]
    have hexponent : -((['0'] : List Char).length : Int) =
        d.exponent - ((d.exponent.toNat + 1 : Nat) : Int) := by
      rw [List.length_singleton]
      omega
    rw [hshifted, hexponent, Decimal.toBinary64_shift] at hread
    rw [if_neg hpoint, hplain, List.append_assoc]
    exact hread
  · rw [if_neg hnone] at hplain
    have hpos := List.length_pos_iff.mpr hnone
    have hread := readUnsigned_fraction negative hwhole hfraction hnone hrest
    have hpoint : d.plain.contains '.' = true := by simp [hplain]
    rw [hvalue, show d.exponent.toNat = 0 by omega, Nat.pow_zero, Nat.one_mul,
      show -(fraction.length : Int) = d.exponent by omega] at hread
    rw [if_pos hpoint, hplain, List.append_assoc, List.cons_append]
    exact hread

/-- Digits with an exponent are read as the decimal. -/
theorem readUnsigned_scientific (negative : Bool) {d : Decimal} {rest : List Char} {leading : Int}
    (hpos : 0 < d.coefficient) (hrest : Delimited rest)
    (hleading : leading = d.exponent + ((digits d.coefficient).length : Int) - 1) :
    readUnsigned negative
        ((digits d.coefficient).take 1 ++ (fractionText ((digits d.coefficient).drop 1) ++
          'e' :: exponentSign (leading < 0) ::
            (List.replicate (2 - (digits leading.natAbs).length) '0' ++ digits leading.natAbs ++
              rest))) =
      .ok (.float (d.toBinary64 negative), rest) := by
  have hlength : 0 < (digits d.coefficient).length := digitCount_pos _
  have hdigits : ∀ c ∈ digits d.coefficient, c.isDigit = true := fun _ => isDigit_of_mem_digits
  have hfirst : IsWhole ((digits d.coefficient).take 1) := by
    refine ⟨fun c hc => hdigits c (List.mem_of_mem_take hc), ?_, .inr ?_⟩
    · exact List.ne_nil_of_length_pos (by rw [List.length_take]; omega)
    · rw [List.head?_take, if_neg Nat.one_ne_zero]
      exact head_digits_ne_zero hpos
  have hfraction : ∀ c ∈ (digits d.coefficient).drop 1, c.isDigit = true :=
    fun c hc => hdigits c (List.mem_of_mem_drop hc)
  have hpower : ∀ c ∈ List.replicate (2 - (digits leading.natAbs).length) '0' ++
      digits leading.natAbs, c.isDigit = true := by
    intro c hc
    rcases List.mem_append.mp hc with hc | hc
    · rw [(List.mem_replicate.mp hc).2]
      rfl
    · exact isDigit_of_mem_digits hc
  have hread :=
    readUnsigned_exponent negative (leading < 0) hfirst hfraction hpower (by simp) hrest
  have hexponent : signedExponent (leading < 0)
      (List.replicate (2 - (digits leading.natAbs).length) '0' ++ digits leading.natAbs) -
        (((digits d.coefficient).drop 1).length : Int) = d.exponent := by
    rw [signedExponent, ofDigits_replicate_append _ fun _ => isDigit_of_mem_digits,
      ofDigits_digits, List.length_drop]
    by_cases hdown : leading < 0
    · simp only [hdown, decide_true, if_true]
      omega
    · simp only [hdown, decide_false, Bool.false_eq_true, if_false]
      omega
  rw [List.take_append_drop, ofDigits_digits, hexponent] at hread
  exact hread

/-- Shortest digits are read as the decimal that they show. -/
theorem readUnsigned_shortestText (negative : Bool) {d : Decimal} {rest : List Char}
    (hpos : 0 < d.coefficient) (hrest : Delimited rest) :
    readUnsigned negative (d.shortestText ++ rest) =
      .ok (.float (d.toBinary64 negative), rest) := by
  unfold Decimal.shortestText
  dsimp only
  by_cases hrange : -4 ≤ d.exponent + ((digits d.coefficient).length : Int) - 1 ∧
      d.exponent + ((digits d.coefficient).length : Int) - 1 < 16
  · rw [if_pos hrange]
    exact readUnsigned_positional negative d hrest
  · have hread := readUnsigned_scientific negative hpos hrest rfl
    rw [if_neg hrange]
    simpa [fractionText, exponentSign] using hread

/-- The words that are values, as characters. -/
theorem literals_eq :
    literals = [(['n', 'u', 'l', 'l'], .null), (['t', 'r', 'u', 'e'], .bool true),
      (['f', 'a', 'l', 's', 'e'], .bool false), (['N', 'a', 'N'], .num (.float .nan)),
      (['I', 'n', 'f', 'i', 'n', 'i', 't', 'y'], .num (.float (.infinite false))),
      (['-', 'I', 'n', 'f', 'i', 'n', 'i', 't', 'y'], .num (.float (.infinite true)))] := rfl

/-- A word that is a value is read as it, whatever follows. -/
theorem readAtom_word {word : List Char} {meaning : Scalar} (h : (word, meaning) ∈ literals)
    (rest : List Char) : readAtom (word ++ rest) = .ok (meaning, rest) := by
  have hread : readLiteral (word ++ rest) = some (meaning, rest) := by
    rw [literals_eq] at h
    unfold readLiteral
    rw [literals_eq]
    simp only [List.mem_cons, Prod.mk.injEq, List.not_mem_nil, or_false] at h
    rcases h with ⟨rfl, rfl⟩ | ⟨rfl, rfl⟩ | ⟨rfl, rfl⟩ | ⟨rfl, rfl⟩ | ⟨rfl, rfl⟩ | ⟨rfl, rfl⟩ <;>
      simp
  unfold readAtom
  rw [hread]

/-- A text that begins with a digit, possibly behind a sign, begins with no word. -/
theorem readLiteral_digit {d : Char} (hd : d.isDigit = true) (negative : Bool) (more : List Char) :
    readLiteral ((if negative then ['-'] else []) ++ d :: more) = none := by
  have hword : ∀ c : Char, c.isDigit = false → c ≠ d := by
    rintro c hc rfl
    rw [hd] at hc
    cases hc
  have hn := hword 'n' (by decide)
  have ht := hword 't' (by decide)
  have hf := hword 'f' (by decide)
  have hN := hword 'N' (by decide)
  have hI := hword 'I' (by decide)
  have hminus := hword '-' (by decide)
  unfold readLiteral
  rw [literals_eq]
  cases negative <;> simp [hn, ht, hf, hN, hI, hminus]

/-- What is read as a number begins with a digit. -/
theorem exists_digit_of_readUnsigned {negative : Bool} {text : List Char} {r : Number × List Char}
    (h : readUnsigned negative text = .ok r) : ∃ d more, text = d :: more ∧ d.isDigit = true := by
  cases text with
  | nil => cases h
  | cons d more =>
    refine ⟨d, more, rfl, ?_⟩
    by_contra hd
    have hspan : spanDigits (d :: more) = ([], d :: more) := by
      rw [spanDigits, List.span_eq_takeWhile_dropWhile]
      simp [hd]
    have hwhole : readWhole (d :: more) = none := by
      unfold readWhole
      split
      · rename_i heq
        rw [List.cons.injEq] at heq
        rw [heq.1] at hd
        exact absurd (by decide) hd
      · rw [hspan]
    unfold readUnsigned at h
    rw [hwhole] at h
    cases h

/-- What is no word and has no sign is read as a number. -/
theorem readAtom_unsigned {c : Char} {more : List Char} (hword : readLiteral (c :: more) = none)
    (hminus : c ≠ '-') :
    readAtom (c :: more) =
      (readUnsigned false (c :: more)).map fun (n, rest) => (.num n, rest) := by
  unfold readAtom
  rw [hword]
  dsimp only
  split
  · rename_i heq
    exact absurd (List.cons.inj heq).1 hminus
  · rfl

/-- A number with its sign is read as an atom. -/
theorem readAtom_of_readUnsigned {negative : Bool} {text rest : List Char} {n : Number}
    (h : readUnsigned negative text = .ok (n, rest)) :
    readAtom ((if negative then ['-'] else []) ++ text) = .ok (.num n, rest) := by
  obtain ⟨d, more, rfl, hd⟩ := exists_digit_of_readUnsigned h
  have hword := readLiteral_digit hd negative more
  cases negative with
  | true =>
    unfold readAtom
    rw [hword]
    simp [h, Except.map]
  | false =>
    have hminus : d ≠ '-' := by
      rintro rfl
      exact absurd hd (by decide)
    rw [if_neg (by decide), List.nil_append] at hword ⊢
    rw [readAtom_unsigned hword hminus, h]
    rfl

/-- A zero of either sign is read back. -/
theorem readUnsigned_zero (negative : Bool) (hrep : Binary64.Representable 0) {rest : List Char}
    (hrest : Delimited rest) :
    readUnsigned negative (['0', '.', '0'] ++ rest) =
      .ok (.float (.finite negative 0 hrep), rest) := by
  have hzero : ∀ c ∈ ['0'], c.isDigit = true := by simp
  have hread := readUnsigned_fraction negative (isWhole_digits 0) hzero (by simp) hrest
  have hdouble : (Decimal.mk 0 (-1)).toBinary64 negative = .finite negative 0 hrep := by
    unfold Decimal.toBinary64
    dsimp only
    rw [if_pos (.inl rfl)]
    exact Binary64.ofUnits_of_representable negative hrep (Binary64.nearestUnits_one hrep)
  rw [← hdouble]
  exact hread

/-- A double in a document is read back. -/
theorem readAtom_float (x : Binary64) {rest : List Char} (hrest : Delimited rest) :
    readAtom (x.text .json ++ rest) = .ok (.num (.float x), rest) := by
  cases x with
  | nan =>
    rw [show Binary64.text .json .nan = ['N', 'a', 'N'] from rfl]
    exact readAtom_word (by simp [literals_eq]) rest
  | infinite negative =>
    cases negative with
    | true =>
      rw [show Binary64.text .json (.infinite true) =
        ['-', 'I', 'n', 'f', 'i', 'n', 'i', 't', 'y'] from rfl]
      exact readAtom_word (by simp [literals_eq]) rest
    | false =>
      rw [show Binary64.text .json (.infinite false) =
        ['I', 'n', 'f', 'i', 'n', 'i', 't', 'y'] from rfl]
      exact readAtom_word (by simp [literals_eq]) rest
  | finite negative units hrep =>
    rw [Binary64.text, List.append_assoc]
    refine readAtom_of_readUnsigned ?_
    rcases Nat.eq_zero_or_pos units with rfl | hunits
    · rw [if_pos rfl]
      exact readUnsigned_zero negative hrep hrest
    · rw [if_neg (Nat.ne_of_gt hunits),
        readUnsigned_shortestText negative (Binary64.coefficient_shortest_pos hunits hrep) hrest,
        Binary64.toBinary64_shortest negative hunits hrep]

/-- A whole number in a document is read back. -/
theorem readAtom_int {n : Int} (hlimit : digitCount n.natAbs ≤ digitLimit) {rest : List Char}
    (hrest : Delimited rest) :
    readAtom (intDigits n ++ rest) = .ok (.num (.int n), rest) := by
  cases n with
  | ofNat n =>
    have hread := readUnsigned_whole false (isWhole_digits n) hlimit hrest
    rw [ofDigits_digits] at hread
    exact readAtom_of_readUnsigned hread
  | negSucc n =>
    have hread := readUnsigned_whole true (isWhole_digits (n + 1)) hlimit hrest
    rw [ofDigits_digits] at hread
    exact readAtom_of_readUnsigned hread

end StyleTokens.Json
