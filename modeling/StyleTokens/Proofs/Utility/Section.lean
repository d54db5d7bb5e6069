import StyleTokens.Proofs.Utility.Reading

/-!
# The sections of a utility sheet

The sheet of a legible scale is read as the rules of its sections. The sections are those of all
widths and of every breakpoint, in strictly rising order of the widths from which on they are
active.
-/

namespace StyleTokens

/-- A slug that can be part of a class name: it has no colon, no white space and no brace. -/
def PlainSlug (slug : String) : Prop :=
  ∀ c ∈ slug.toList, c ≠ ':' ∧ Text.isBlank c = false ∧ c ≠ '\x7b' ∧ c ≠ '\x7d'

/-- A text has no brace. -/
def BraceFree (text : String) : Prop := '\x7b' ∉ text.toList ∧ '\x7d' ∉ text.toList

/-- A text that can be part of a declaration's value: it has no semicolon and no brace. -/
def PlainValue (text : String) : Prop := ∀ c ∈ text.toList, c ≠ ';' ∧ c ≠ '\x7b' ∧ c ≠ '\x7d'

/-- What a scale, breakpoints and the beginning of custom properties have to be like for their
sheet to be read. -/
structure Legible (scale : List SpacingSize) (breakpoints : List Breakpoint)
    (variableStem : String) : Prop where
  /-- The slugs of sizes are plain. -/
  sizeSlugs : ∀ size ∈ scale, PlainSlug size.slug
  /-- No two sizes have the same slug. -/
  distinctSizes : (scale.map (·.slug)).Nodup
  /-- Sizes are plain. -/
  sizes : ∀ size ∈ scale, PlainValue size.size
  /-- The beginning of custom properties is plain. -/
  stem : PlainValue variableStem
  /-- The slugs of breakpoints are plain, and none is that of the base. -/
  breakpointSlugs : ∀ breakpoint ∈ breakpoints,
    PlainSlug breakpoint.slug ∧ breakpoint.slug ≠ baseBreakpoint
  /-- Breakpoints begin at whole numbers of pixels that a double can hold. -/
  widths : ∀ breakpoint ∈ breakpoints, ∃ n < 2 ^ 53, breakpoint.FromPixels n
  /-- No two breakpoints begin at the same width. -/
  distinctWidths : (breakpoints.map (·.value)).Nodup

/-- The rules at a breakpoint are those of every category, side and size with a property to set. -/
theorem mem_rulesAt {slug variableStem : String} {scale : List SpacingSize}
    {categories : List StyleCategory} {rule : UtilityRule} :
    rule ∈ rulesAt slug variableStem scale categories ↔
      ∃ category ∈ categories, ∃ side, ∃ size ∈ scale, sideProperties category side ≠ [] ∧
        rule = ⟨category.marker?, className category.stem slug side size.slug,
          sideProperties category side, size.value variableStem⟩ := by
  have hside (side : Side) : side ∈ Side.order := by cases side <;> decide
  have hrules (category : StyleCategory) (side : Side) :
      rule ∈ sideRules slug variableStem scale category side ↔
        ∃ size ∈ scale, sideProperties category side ≠ [] ∧
          rule = ⟨category.marker?, className category.stem slug side size.slug,
            sideProperties category side, size.value variableStem⟩ := by
    unfold sideRules
    cases hproperties : sideProperties category side with
    | nil => simp
    | cons property properties => simp [eq_comm]
  simp only [rulesAt, List.mem_flatMap, hrules, hside, true_and]

/-- The properties of a side are plain words. -/
theorem plain_sideProperties (category : StyleCategory) (side : Side) :
    ∀ property ∈ sideProperties category side, ∀ c ∈ property.toList,
      Text.isBlank c = false ∧ c ≠ ':' ∧ c ≠ ';' ∧ c ≠ '\x7b' ∧ c ≠ '\x7d' := by
  cases category <;> cases side <;>
    simp [sideProperties, sideProperties.boxParts, StyleCategory.name] <;> decide

/-- The marker of a category is a plain word. -/
theorem plain_marker (category : StyleCategory) : ∀ marker ∈ category.marker?,
    ∀ c ∈ marker.toList, c ≠ '\\' ∧ Text.isBlank c = false ∧ c ≠ '\x7b' ∧ c ≠ '\x7d' := by
  cases category <;> simp [StyleCategory.marker?]
  decide

/-- The characters of a class name in a selector. -/
theorem mem_escapeSelector {name : String} {c : Char} (h : c ∈ (escapeSelector name).toList) :
    c ∈ name.toList ∨ c = '\\' := by
  rw [escapeSelector, String.toList_ofList, List.mem_flatMap] at h
  obtain ⟨d, hd, hc⟩ := h
  split at hc
  · next hcolon =>
    simp only [List.mem_cons, List.not_mem_nil, or_false] at hc
    rcases hc with rfl | rfl
    · exact Or.inr rfl
    · exact Or.inl (hcolon ▸ hd)
  · simp only [List.mem_singleton] at hc
    exact Or.inl (hc ▸ hd)

/-- A class name of plain parts can stand in a selector. -/
theorem plain_className (category : StyleCategory) (side : Side) {slug value : String}
    (hslug : PlainSlug slug) (hvalue : PlainSlug value) :
    ∀ c ∈ (className category.stem slug side value).toList,
      Text.isBlank c = false ∧ c ≠ '\x7b' ∧ c ≠ '\x7d' := by
  have hstem : ∀ c ∈ classStem category side,
      Text.isBlank c = false ∧ c ≠ '\x7b' ∧ c ≠ '\x7d' := by
    cases category <;> cases side <;>
      simp [classStem, StyleCategory.stem, Side.suffix] <;> decide
  have hqualifier : ∀ c ∈ (breakpointQualifier slug).toList,
      Text.isBlank c = false ∧ c ≠ '\x7b' ∧ c ≠ '\x7d' := by
    unfold breakpointQualifier
    intro c hc
    split at hc
    · cases hc
    · rw [String.toList_append, List.mem_append] at hc
      rcases hc with hmem | hmem
      · exact (hslug c hmem).2
      · simp only [String.reduceToList, List.mem_singleton] at hmem
        subst hmem
        decide
  intro c hc
  simp only [toList_className, List.mem_append, List.mem_cons] at hc
  rcases hc with hmem | hmem | rfl | hmem
  · exact hqualifier c hmem
  · exact hstem c hmem
  · decide
  · exact (hvalue c hmem).2

/-- There are no braces in a value whose parts have none. -/
theorem braceFree_value {size : SpacingSize} {variableStem : String} (hslug : PlainSlug size.slug)
    (hsize : BraceFree size.size) (hstem : BraceFree variableStem) :
    BraceFree (size.value variableStem) := by
  have hopen : '\x7b' ∉ size.slug.toList := fun hmem => (hslug _ hmem).2.2.1 rfl
  have hclose : '\x7d' ∉ size.slug.toList := fun hmem => (hslug _ hmem).2.2.2 rfl
  unfold SpacingSize.value
  split
  · simp [BraceFree]
  · have hopens := And.intro hstem.1 (And.intro hopen hsize.1)
    have hcloses := And.intro hstem.2 (And.intro hclose hsize.2)
    simpa [BraceFree, String.toList_append] using ⟨hopens, hcloses⟩

/-- The value of a plain size can be declared. -/
theorem plain_value {size : SpacingSize} {variableStem : String} (hslug : PlainSlug size.slug)
    (hsize : PlainValue size.size) (hstem : PlainValue variableStem) :
    Text.Trimmed (size.value variableStem).toList ∧
      StyleRule.Unended (size.value variableStem).toList ∧ BraceFree (size.value variableStem) := by
  have hnot {text : String} (h : PlainValue text) : ';' ∉ text.toList ∧ BraceFree text :=
    ⟨fun hmem => (h _ hmem).1 rfl, fun hmem => (h _ hmem).2.1 rfl, fun hmem => (h _ hmem).2.2 rfl⟩
  refine and_assoc.mp ⟨?_, braceFree_value hslug (hnot hsize).2 (hnot hstem).2⟩
  unfold SpacingSize.value
  split
  · refine ⟨⟨?_, ?_⟩, ?_⟩
    · simp; decide
    · simp; decide
    · simp [StyleRule.Unended]
  · have htext : ("var(" ++ variableStem ++ size.slug ++ ", " ++ size.size ++ ")").toList =
        ("var(".toList ++ variableStem.toList) ++ (size.slug.toList ++
          ((", ".toList ++ size.size.toList ++ ")".toList) ++ [])) := by
      simp [String.toList_append]
    rw [htext]
    refine ⟨⟨by simp; decide, ?_⟩, ?_⟩
    · rw [List.append_nil, ← List.append_assoc, ← List.append_assoc, List.getLast?_append]
      simp
      decide
    · refine StyleRule.unended_append ?_ (StyleRule.unended_append_of_forall
        (fun c hc => (hslug c hc).2.1) ⟨',', by simp, by decide⟩
        (StyleRule.unended_append ?_ trivial))
      · simpa using (hnot hstem).1
      · simpa using (hnot hsize).1

/-- A selector of plain parts has neither white space nor braces. -/
theorem plain_selector_of_mem_rulesAt {scale : List SpacingSize} {variableStem slug : String}
    {categories : List StyleCategory} {rule : UtilityRule} (hslug : PlainSlug slug)
    (hscale : ∀ size ∈ scale, PlainSlug size.slug)
    (hrule : rule ∈ rulesAt slug variableStem scale categories) :
    ∀ c ∈ rule.selector.toList, Text.isBlank c = false ∧ c ≠ '\x7b' ∧ c ≠ '\x7d' := by
  obtain ⟨category, -, side, size, hsize, -, rfl⟩ := mem_rulesAt.mp hrule
  have hclass := plain_className category side hslug (hscale size hsize)
  have hescaped : ∀ c ∈ (escapeSelector (className category.stem slug side size.slug)).toList,
      Text.isBlank c = false ∧ c ≠ '\x7b' ∧ c ≠ '\x7d' := by
    intro c hc
    rcases mem_escapeSelector hc with hmem | rfl
    · exact hclass c hmem
    · decide
  intro c hc
  simp only [UtilityRule.selector, String.toList_append, List.mem_append] at hc
  rcases hc with (hmarker | hdot) | hmem
  · cases hfound : category.marker? with
    | none => simp [hfound] at hmarker
    | some marker =>
      simp only [hfound, String.toList_append, List.mem_append, String.reduceToList,
        List.mem_singleton] at hmarker
      rcases hmarker with rfl | hmem
      · decide
      · exact (plain_marker category marker hfound c hmem).2
  · simp only [String.reduceToList, List.mem_singleton] at hdot
    subst hdot
    decide
  · exact hescaped c hmem

/-- The rules of a legible scale at a breakpoint with a plain slug are legible. -/
theorem legible_of_mem_rulesAt {scale : List SpacingSize} {breakpoints : List Breakpoint}
    {variableStem slug : String} {categories : List StyleCategory} {rule : UtilityRule}
    (h : Legible scale breakpoints variableStem) (hslug : PlainSlug slug)
    (hrule : rule ∈ rulesAt slug variableStem scale categories) : rule.Legible := by
  have hselector := plain_selector_of_mem_rulesAt hslug h.sizeSlugs hrule
  obtain ⟨category, -, side, size, hsize, hproperties, rfl⟩ := mem_rulesAt.mp hrule
  obtain ⟨htrimmed, hunended, hbraces⟩ :=
    plain_value (h.sizeSlugs size hsize) (h.sizes size hsize) h.stem
  refine ⟨?_, hselector, plain_sideProperties category side, hproperties, htrimmed, hunended,
    hbraces⟩
  intro marker hmarker hslash
  exact (plain_marker category marker hmarker _ hslash).1 rfl

/-- A breakpoint's slug, or that of the base, with the width in pixels that it begins at. -/
def BeginsAt (breakpoints : List Breakpoint) (slug : String) (leastWidth : WithBot Nat) : Prop :=
  (slug = baseBreakpoint ∧ leastWidth = ⊥) ∨
    ∃ breakpoint ∈ breakpoints, breakpoint.slug = slug ∧
      ∃ n : Nat, breakpoint.FromPixels n ∧ leastWidth = n

section

variable {scale : List SpacingSize} {breakpoints : List Breakpoint} {variableStem : String}
  {categories : List StyleCategory}

/-- The sections of a sheet are those of the base and of the breakpoints. -/
theorem mem_utilitySections {part : UtilitySection} :
    part ∈ utilitySections scale breakpoints categories variableStem ↔
      part = ⟨none, rulesAt baseBreakpoint variableStem scale categories⟩ ∨
      ∃ breakpoint ∈ breakpoints, breakpoint.slug ≠ baseBreakpoint ∧
        part = ⟨some breakpoint.value,
          rulesAt breakpoint.slug variableStem scale categories⟩ := by
  simp only [utilitySections, List.mem_cons, List.mem_map, mem_sortBreakpoints, and_assoc,
    eq_comm]

/-- The rules of a breakpoint's section are active from its width on. -/
theorem leastWidth_of_fromPixels {breakpoint : Breakpoint} {n : Nat}
    (h : breakpoint.FromPixels n) (rules : List UtilityRule) :
    (UtilitySection.mk (some breakpoint.value) rules).leastWidth = n := by
  have hdigits : ∀ c ∈ digits n, c.isDigit = true := fun c => isDigit_of_mem_digits
  simp only [UtilitySection.leastWidth]
  rw [h, toList_pixels, List.takeWhile_append_of_pos hdigits]
  simp

/-- Wherever a breakpoint or the base begins, there is a section with its rules. -/
theorem exists_section_of_beginsAt (categories : List StyleCategory)
    (h : Legible scale breakpoints variableStem) {slug : String}
    {leastWidth : WithBot Nat} (hbegins : BeginsAt breakpoints slug leastWidth) :
    ∃ part ∈ utilitySections scale breakpoints categories variableStem,
      part.leastWidth = leastWidth ∧ part.rules = rulesAt slug variableStem scale categories := by
  rcases hbegins with ⟨rfl, rfl⟩ | ⟨breakpoint, hmem, rfl, n, hpixels, rfl⟩
  · exact ⟨_, mem_utilitySections.mpr (Or.inl rfl), rfl, rfl⟩
  · have hbase := (h.breakpointSlugs breakpoint hmem).2
    exact ⟨_, mem_utilitySections.mpr (Or.inr ⟨breakpoint, hmem, hbase, rfl⟩),
      leastWidth_of_fromPixels hpixels _, rfl⟩

/-- The slug of the base is plain. -/
theorem plainSlug_base : PlainSlug baseBreakpoint := by
  simp [PlainSlug, baseBreakpoint]
  decide

/-- The slugs at which something begins are plain. -/
theorem plainSlug_of_beginsAt (h : Legible scale breakpoints variableStem) {slug : String}
    {leastWidth : WithBot Nat} (hbegins : BeginsAt breakpoints slug leastWidth) :
    PlainSlug slug := by
  rcases hbegins with ⟨rfl, -⟩ | ⟨breakpoint, hmem, rfl, -⟩
  · exact plainSlug_base
  · exact (h.breakpointSlugs breakpoint hmem).1

/-- Every section has the rules of the base or of a breakpoint that begins where it does. -/
theorem exists_beginsAt_of_section (h : Legible scale breakpoints variableStem)
    {part : UtilitySection}
    (hpart : part ∈ utilitySections scale breakpoints categories variableStem) :
    ∃ slug, PlainSlug slug ∧ BeginsAt breakpoints slug part.leastWidth ∧
      part.rules = rulesAt slug variableStem scale categories := by
  rcases mem_utilitySections.mp hpart with rfl | ⟨breakpoint, hmem, -, rfl⟩
  · have hbegins : BeginsAt breakpoints baseBreakpoint ⊥ := Or.inl ⟨rfl, rfl⟩
    exact ⟨baseBreakpoint, plainSlug_of_beginsAt h hbegins, hbegins, rfl⟩
  · obtain ⟨n, -, hpixels⟩ := h.widths breakpoint hmem
    exact ⟨breakpoint.slug, (h.breakpointSlugs breakpoint hmem).1,
      Or.inr ⟨breakpoint, hmem, rfl, n, hpixels, leastWidth_of_fromPixels hpixels _⟩, rfl⟩

/-- From section to section the width rises. -/
theorem pairwise_leastWidth (categories : List StyleCategory)
    (h : Legible scale breakpoints variableStem) :
    (utilitySections scale breakpoints categories variableStem).Pairwise
      fun a b => a.leastWidth < b.leastWidth := by
  have hwidth {breakpoint : Breakpoint} (hmem : breakpoint ∈ sortBreakpoints breakpoints) :
      ∃ n, breakpoint.FromPixels n := by
    obtain ⟨n, -, hpixels⟩ := h.widths breakpoint (mem_sortBreakpoints.mp hmem).1
    exact ⟨n, hpixels⟩
  refine List.pairwise_cons.mpr ⟨?_, ?_⟩
  · intro part hpart
    obtain ⟨breakpoint, hmem, rfl⟩ := List.mem_map.mp hpart
    obtain ⟨n, hpixels⟩ := hwidth hmem
    rw [leastWidth_of_fromPixels hpixels]
    exact WithBot.bot_lt_coe n
  · refine List.pairwise_map.mpr
      ((pairwise_pixels_sortBreakpoints h.widths h.distinctWidths).imp_of_mem ?_)
    intro a b ha hb hless
    obtain ⟨m, hm⟩ := hwidth ha
    obtain ⟨n, hn⟩ := hwidth hb
    rw [leastWidth_of_fromPixels hm, leastWidth_of_fromPixels hn]
    exact WithBot.coe_lt_coe.mpr (hless m n hm hn)

/-- The sheet of a legible scale is read as the rules of its sections. -/
theorem ofSheet_utilitySections (h : Legible scale breakpoints variableStem) :
    StyleRule.ofSheet
        (utilityText (utilitySections scale breakpoints categories variableStem)) =
      (utilitySections scale breakpoints categories variableStem).flatMap fun part =>
        part.rules.map (UtilityRule.asRead part.leastWidth) := by
  refine ofSheet_utilityText ?_ ?_
  · intro part hpart width hwidth
    rcases mem_utilitySections.mp hpart with rfl | ⟨breakpoint, hmem, -, rfl⟩
    · cases hwidth
    · obtain ⟨n, -, hpixels⟩ := h.widths breakpoint hmem
      cases hwidth
      exact ⟨n, hpixels⟩
  · intro part hpart rule hrule
    obtain ⟨slug, hslug, -, hrules⟩ := exists_beginsAt_of_section h hpart
    rw [hrules] at hrule
    exact legible_of_mem_rulesAt h hslug hrule

end

end StyleTokens
