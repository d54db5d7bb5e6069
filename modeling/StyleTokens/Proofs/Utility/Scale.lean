import StyleTokens.Proofs.Number.Binary64
import StyleTokens.Utility.Scale

/-!
# Breakpoints and scales in order

A width in whole pixels is read as that number, so breakpoints with such widths are put in the
order of their pixels.

A scale is made of the sizes that are given, in their order. A zero is put in front of them if none
of them is a zero, but a zero among them stays where it is. So the scale is led by a zero unless one
is given behind another size, and apart from the zero that is put in front nothing is added, lost or
moved.
-/

namespace StyleTokens

/-! ### Breakpoints -/

/-- A breakpoint from so many pixels on. -/
def Breakpoint.FromPixels (breakpoint : Breakpoint) (n : Nat) : Prop :=
  breakpoint.value = toString n ++ "px"

/-- The characters of a width in whole pixels. -/
theorem toList_pixels (n : Nat) : (toString n ++ "px").toList = digits n ++ ['p', 'x'] := by
  simp [String.toList_append, Nat.toList_repr, digits]

/-- A breakpoint begins at one number of pixels. -/
theorem Breakpoint.FromPixels.unique {breakpoint : Breakpoint} {m n : Nat}
    (hm : breakpoint.FromPixels m) (hn : breakpoint.FromPixels n) : m = n := by
  have hchars := congrArg String.toList (hm.symm.trans hn)
  rw [toList_pixels, toList_pixels, List.append_cancel_right_eq] at hchars
  rw [← ofDigits_digits m, hchars, ofDigits_digits]

/-- Digits at the beginning of a width are read to the first character that is none. -/
theorem leadingDigits_append {ds rest : List Char} (hds : ∀ c ∈ ds, c.isDigit = true)
    (hrest : ∀ c ∈ rest.head?, Text.isDecimalDigit c = false) :
    leadingDigits (ds ++ rest) = (ds, rest) := by
  have hdigits : ∀ c ∈ ds, Text.isDecimalDigit c = true := by
    intro c hc
    obtain ⟨d, hd, -⟩ := decimalDigit?_of_isDigit (hds c hc)
    simp [Text.isDecimalDigit, hd]
  have hsame : ds.map (fun c => Nat.digitChar ((Text.decimalDigit? c).getD 0)) = ds := by
    refine (List.map_congr_left fun c hc => ?_).trans (List.map_id ds)
    obtain ⟨d, hd, hchar⟩ := decimalDigit?_of_isDigit (hds c hc)
    simp [hd, hchar]
  have hstop : rest.takeWhile Text.isDecimalDigit = [] ∧
      rest.dropWhile Text.isDecimalDigit = rest := by
    cases rest with
    | nil => simp
    | cons c rest => simp [hrest c rfl]
  unfold leadingDigits
  rw [List.takeWhile_append_of_pos hdigits, List.dropWhile_append_of_pos hdigits, hstop.1,
    hstop.2, List.append_nil, hsame]

/-- A width in whole pixels is read as their number. -/
theorem numericWidth_pixels (n : Nat) :
    numericWidth (toString n ++ "px") = (Decimal.mk n 0).toBinary64 false := by
  have hread : leadingDigits (digits n ++ ['p', 'x']) = (digits n, ['p', 'x']) := by
    refine leadingDigits_append (fun c => isDigit_of_mem_digits) ?_
    simp only [List.head?_cons, Option.mem_def, Option.some.injEq, forall_eq']
    decide
  obtain ⟨first, more, hfirst⟩ := List.exists_cons_of_ne_nil (digits_ne_nil n)
  have hdigit : first.isDigit = true := isDigit_of_mem_digits (n := n) (by simp [hfirst])
  have htrim : Text.trimStart (digits n ++ ['p', 'x']) = digits n ++ ['p', 'x'] := by
    simp [Text.trimStart, hfirst, isBlank_of_isDigit hdigit]
  have hsign : ((digits n ++ ['p', 'x']).head? == some '-') = false := by
    have hne : first ≠ '-' := by
      rintro rfl
      exact absurd hdigit (by decide)
    simp [hfirst, hne]
  unfold numericWidth
  dsimp only
  rw [toList_pixels, htrim, hsign]
  simp [hread]

/-- Reading a width always gives a number. -/
theorem numericWidth_ne_nan (width : String) : numericWidth width ≠ .nan := by
  unfold numericWidth
  dsimp only
  generalize leadingDigits _ = parts
  split_ifs
  · simp [Binary64.zero]
  · exact Decimal.toBinary64_ne_nan _ _

/-- Of two widths in whole pixels, the one of fewer pixels is no wider. -/
theorem Breakpoint.noWider_iff {a b : Breakpoint} {m n : Nat} (ha : a.FromPixels m)
    (hb : b.FromPixels n) (hm : m < 2 ^ 53) (hn : n < 2 ^ 53) :
    a.noWider b = true ↔ m ≤ n := by
  unfold Breakpoint.noWider
  rw [Number.le_float_iff (numericWidth_ne_nan _) (numericWidth_ne_nan _), ha, hb,
    numericWidth_pixels, numericWidth_pixels, Decimal.toBinary64_natCast hm,
    Decimal.toBinary64_natCast hn, Binary64.position, Binary64.position, Int.ofNat_le]
  exact Nat.mul_le_mul_right_iff Binary64.unitsPerOne_pos

/-- Sorted breakpoints are in the order of their widths. -/
theorem pairwise_sortBreakpoints (breakpoints : List Breakpoint) :
    (sortBreakpoints breakpoints).Pairwise fun a b => a.noWider b = true := by
  have hle (a b : Breakpoint) : a.noWider b = true ↔
      (numericWidth a.value).position ≤ (numericWidth b.value).position :=
    Number.le_float_iff (numericWidth_ne_nan _) (numericWidth_ne_nan _)
  refine List.pairwise_mergeSort ?_ ?_ _
  · intro a b c hab hbc
    rw [hle] at hab hbc ⊢
    exact hab.trans hbc
  · intro a b
    rw [Bool.or_eq_true, hle, hle]
    exact le_total _ _

/-- Sorting keeps every breakpoint but the base. -/
theorem mem_sortBreakpoints {breakpoints : List Breakpoint} {breakpoint : Breakpoint} :
    breakpoint ∈ sortBreakpoints breakpoints ↔
      breakpoint ∈ breakpoints ∧ breakpoint.slug ≠ baseBreakpoint := by
  unfold sortBreakpoints
  rw [(List.mergeSort_perm _ _).mem_iff, List.mem_filter]
  simp [Breakpoint.isBase]

/-- Breakpoints of distinct widths in whole pixels are sorted into strictly rising ones. -/
theorem pairwise_pixels_sortBreakpoints {breakpoints : List Breakpoint}
    (hpixels : ∀ b ∈ breakpoints, ∃ n < 2 ^ 53, b.FromPixels n)
    (hdistinct : (breakpoints.map (·.value)).Nodup) :
    (sortBreakpoints breakpoints).Pairwise fun a b =>
      ∀ m n, a.FromPixels m → b.FromPixels n → m < n := by
  have hvalues : (sortBreakpoints breakpoints).Pairwise fun a b => a.value ≠ b.value := by
    have hfiltered : (breakpoints.filter fun b => !b.isBase).Pairwise fun a b => a.value ≠ b.value :=
      (List.pairwise_map.mp hdistinct).filter _
    exact (List.mergeSort_perm _ _).symm.pairwise hfiltered fun h => h.symm
  refine (hvalues.and (pairwise_sortBreakpoints breakpoints)).imp_of_mem ?_
  rintro a b ha hb ⟨hne, hle⟩ m n hm hn
  have hbelow {breakpoint : Breakpoint} (h : breakpoint ∈ sortBreakpoints breakpoints) {k : Nat}
      (hk : breakpoint.FromPixels k) : k < 2 ^ 53 := by
    obtain ⟨k', hk', hfrom⟩ := hpixels breakpoint (mem_sortBreakpoints.mp h).1
    rwa [hk.unique hfrom]
  have hmn : m ≤ n := (Breakpoint.noWider_iff hm hn (hbelow ha hm) (hbelow hb hn)).mp hle
  refine Nat.lt_of_le_of_ne hmn ?_
  rintro rfl
  exact hne (hm.trans hn.symm)

/-! ### Scales -/

/-- A scale that a zero leads, with all given sizes behind it in their order. The zero is put in
front of them, or it is one of them and stands behind no longer. -/
inductive IsLedByZero : (given scale : List SpacingSize) → Prop where
  /-- A zero is put in front of all sizes. -/
  | added {leader : SpacingSize} {given : List SpacingSize} (hzero : leader.slug = "0") :
    IsLedByZero given (leader :: given)
  /-- One of the sizes, a zero, comes to the front. -/
  | chosen {leader : SpacingSize} {before after : List SpacingSize} (hzero : leader.slug = "0") :
    IsLedByZero (before ++ leader :: after) (leader :: (before ++ after))

/-- The first size of a scale that a zero leads is a zero. -/
theorem IsLedByZero.zero_first {given scale : List SpacingSize} (hled : IsLedByZero given scale) :
    ∃ size ∈ scale.head?, size.slug = "0" := by
  cases hled with
  | added hzero => exact ⟨_, rfl, hzero⟩
  | chosen hzero => exact ⟨_, rfl, hzero⟩

namespace GivenSize

/-- Sizes that are all steps are led as they are. -/
theorem scale_map_step (steps : List SpacingSize) :
    scale (steps.map .step) = SpacingSize.withZero steps := by
  have hsame : size? ∘ GivenSize.step = some := rfl
  rw [scale, sizes, List.filterMap_map, hsame, List.filterMap_some]

/-- The scale of unchecked data only. -/
theorem scale_map_data (values : List Value) :
    scale (values.map .data) = SpacingSize.scaleOfValues values := by
  have hsame : size? ∘ GivenSize.data = SpacingSize.ofValue? := rfl
  rw [scale, sizes, List.filterMap_map, hsame, SpacingSize.scaleOfValues]

variable {given : List GivenSize}

/-- Without a zero among the sizes, one is put in front of them. -/
theorem scale_of_forall_ne (h : ∀ size ∈ sizes given, size.slug ≠ "0") :
    scale given = SpacingSize.zero :: sizes given := by
  have hnone : ¬(sizes given).any (fun size => size.slug == SpacingSize.zero.slug) = true := by
    simpa [SpacingSize.zero] using h
  rw [scale, SpacingSize.withZero, if_neg hnone]

/-- With a zero among them, the sizes stay as they are. -/
theorem scale_of_exists (h : ∃ size ∈ sizes given, size.slug = "0") :
    scale given = sizes given := by
  have hsome : (sizes given).any (fun size => size.slug == SpacingSize.zero.slug) = true := by
    simpa [SpacingSize.zero] using h
  rw [scale, SpacingSize.withZero, if_pos hsome]

/-- A scale is led by a zero exactly if the first size is a zero or none of them is. It is made of
the sizes that are given, all in their order, and at most the zero in front. -/
theorem scale_isLedByZero_iff (given : List GivenSize) :
    (IsLedByZero (sizes given) (scale given) ↔
      ((∃ size ∈ sizes given, size.slug = "0") → ∃ size ∈ (sizes given).head?, size.slug = "0")) ∧
    (scale given = sizes given ∨ scale given = SpacingSize.zero :: sizes given) := by
  by_cases hzero : ∃ size ∈ sizes given, size.slug = "0"
  · rw [scale_of_exists hzero]
    refine ⟨⟨fun hled _ => hled.zero_first, fun hfirst => ?_⟩, .inl rfl⟩
    obtain ⟨leader, hhead, hleader⟩ := hfirst hzero
    obtain ⟨rest, hrest⟩ := List.head?_eq_some_iff.mp hhead
    have hled : IsLedByZero ([] ++ leader :: rest) (leader :: ([] ++ rest)) := .chosen hleader
    rwa [hrest]
  · have hnone : ∀ size ∈ sizes given, size.slug ≠ "0" := by simpa using hzero
    rw [scale_of_forall_ne hnone]
    exact ⟨iff_of_true (.added rfl) fun hsome => absurd hsome hzero, .inr rfl⟩

/-- Data for a step of a scale. -/
def stepData (slug size : String) : Value :=
  .map [(.str "slug", .str slug), (.str "size", .str size)]

/-- A zero that is given behind another size does not lead. -/
theorem not_isLedByZero_of_late :
    ¬IsLedByZero (sizes [.data (stepData "1" "1px"), .data (stepData "0" "0")])
      (scale [.data (stepData "1" "1px"), .data (stepData "0" "0")]) := by
  intro hled
  obtain ⟨leader, hhead, hleader⟩ := hled.zero_first
  have hfirst : scale [.data (stepData "1" "1px"), .data (stepData "0" "0")] =
      [⟨"1", "Size 1", "1px"⟩, ⟨"0", "Size 0", "0"⟩] := by decide
  rw [hfirst] at hhead
  obtain rfl : leader = ⟨"1", "Size 1", "1px"⟩ := by simpa using hhead.symm
  exact absurd hleader (by decide)

end GivenSize

end StyleTokens
