import StyleTokens.Preset.Stylesheet
import StyleTokens.Proofs.ClassName.Responsive
import StyleTokens.Proofs.Token.Reading

/-!
# What endless numbers stop

Sides, classes and stylesheets are made of all data but endless numbers, and percentages past every
double where they become lengths. Where one of these would be shown, there is a fault.
-/

namespace StyleTokens

/-! ### Classes -/

/-- A responsive value with an endless number where a side value is read. -/
def Value.SetsEndless (value : Value) : Prop :=
  ∃ entries : Value.Entries, value = .map entries ∧
    ∃ key ∈ entries.map (·.1), ∃ raw, entries.find? key = some raw ∧ raw.HoldsEndless

/-- The classes at some breakpoints cannot be made exactly if an entry holds an endless number. -/
theorem classesAt_fault_iff {category : StyleCategory} {entries : Value.Entries}
    {keys : List Scalar} :
    (∃ fault, (classesAt category entries keys).outcome = .error fault) ↔
      ∃ key ∈ keys, ∃ raw, entries.find? key = some raw ∧ raw.HoldsEndless := by
  induction keys with
  | nil => simp [classesAt]
  | cons key keys ih =>
    have hhead : ((entries.find? key).getD .null).HoldsEndless ↔
        ∃ raw, entries.find? key = some raw ∧ raw.HoldsEndless := by
      cases entries.find? key with
      | none => simp [Value.HoldsEndless, Value.IsEndless]
      | some raw => simp
    rw [classesAt, Noted.outcome_bind, outcome_notedSides, List.exists_mem_cons_iff, ← hhead,
      ← normalize_fault_iff, ← ih]
    cases normalize ((entries.find? key).getD .null) with
    | error fault => simp [error_bind]
    | ok sides =>
      rw [ok_bind, Noted.outcome_bind]
      simp [bind_eq_error_iff]

/-- A list of texts asks for the breakpoints that they name. -/
theorem breakpointOrder_texts (slugs : List String) :
    breakpointOrder (.list (slugs.map .str)) = .ok (slugs.map .str) := by
  cases slugs with
  | nil => rfl
  | cons slug slugs =>
    change keysOfItems ((slug :: slugs).map .str) = _
    rw [keysOfItems, mapM_eq_ok_iff, List.forall₂_map_left_iff, List.forall₂_map_right_iff,
      List.forall₂_same]
    exact fun _ _ => rfl

/-- The classes of unchecked data cannot be made exactly if it is a responsive value with an
endless number. -/
theorem responsiveClassesOfValue_fault_iff {category : StyleCategory} {value : Value}
    {slugs : List String} :
    (∃ fault, (responsiveClassesOfValue category value (.list (slugs.map .str))).outcome =
        .error fault) ↔ value.SetsEndless := by
  match value with
  | .scalar s => simp [responsiveClassesOfValue, Value.SetsEndless]
  | .list items => simp [responsiveClassesOfValue, Value.SetsEndless]
  | .map [] => simp [responsiveClassesOfValue, Value.SetsEndless]
  | .map (entry :: entries) =>
    rw [responsiveClassesOfValue, Noted.outcome_bind, Noted.outcome_quiet, breakpointOrder_texts,
      ok_bind, responsiveClasses, Noted.outcome_bind]
    simp only [bind_eq_error_iff, Noted.outcome_pure, reduceCtorEq, and_false, exists_false,
      or_false, classesAt_fault_iff, mem_orderedKeys_of_texts, Value.map.injEq, exists_eq_left',
      Value.SetsEndless]

/-- The classes of an element cannot be made exactly if one of its responsive values holds an
endless number. -/
theorem compileSpacing_fault_iff {attributes : Value.Entries} {slugs : List String} :
    (∃ fault, (compileSpacing (.map attributes) (.list (slugs.map .str))).outcome =
        .error fault) ↔
      ∃ category : StyleCategory, (attributes.get category.name).SetsEndless := by
  have horder : ∀ category, category ∈ StyleCategory.order := by
    intro category
    cases category <;> decide
  cases attributes with
  | nil => simp [compileSpacing, Value.truthy, Value.SetsEndless, Value.Entries.get,
      Value.Entries.get?, Value.Entries.find?]
  | cons entry attributes =>
    change (∃ fault, (spacingClasses (entry :: attributes) _ >>= _).outcome = .error fault) ↔ _
    rw [Noted.outcome_bind, spacingClasses, Noted.outcome_bind, Noted.outcome_mapM]
    simp only [bind_eq_error_iff, Noted.outcome_pure, reduceCtorEq, and_false, exists_false,
      or_false, mapM_fault_iff, responsiveClassesOfValue_fault_iff, horder, true_and]

/-! ### Stylesheets -/

/-- Letter spacing in percent, past every double. -/
def EndlessPercentage (text : String) : Prop :=
  ∃ negative amount, percentage? text.toList = some (negative, amount) ∧
    (amount.toBinary64 negative).isFinite = false

/-- A value that no declaration of a property shows. -/
def EndlessDeclaration (property : String) (value : Value) : Prop :=
  value.IsEndless ∨
    property = "letter-spacing" ∧ ∃ text, value = .str text ∧ EndlessPercentage text

/-- A percentage becomes a length exactly if it is not past every double. -/
theorem emLength_fault_iff {negative : Bool} {amount : Decimal} :
    (∃ fault, emLength negative amount = .error fault) ↔
      (amount.toBinary64 negative).isFinite = false := by
  obtain ⟨units, hunits, hne, hle, hhundredth⟩ := Decimal.exists_toBinary64_hundredth
  unfold emLength
  simp only [map_eq_error_iff, Number.significantText?_float_fault_iff, hhundredth]
  have hnan := Decimal.toBinary64_ne_nan negative amount
  cases hamount : amount.toBinary64 negative with
  | nan => exact absurd hamount hnan
  | infinite s =>
    rw [Binary64.mul, if_neg hne]
    exact iff_of_true ⟨_, rfl⟩ rfl
  | finite s m hm =>
    have hfinite := @Binary64.isFinite_mul (.finite s m hm) rfl false units hunits hle
    refine iff_of_false ?_ (by simp [Binary64.isFinite])
    rintro ⟨t, hinfinite⟩
    rw [hinfinite] at hfinite
    cases hfinite

/-- The texts of numbers are no percentages. -/
theorem percentage?_of_isStyleNumber {text : List Char} (h : IsStyleNumber text) :
    percentage? text = none := by
  unfold percentage?
  split
  · rename_i number hreverse
    have hmem : '%' ∈ text := by
      rw [← List.mem_reverse, hreverse]
      exact List.mem_cons_self
    rcases h.2 _ hmem with hdigit | hother
    · exact absurd hdigit (by decide)
    · exact absurd hother (by decide)
  · rfl

/-- A property's rules fail exactly for letter spacing in an endless percentage. -/
theorem propertyText_fault_iff {property text : String} :
    (∃ fault, propertyText property text = .error fault) ↔
      property = "letter-spacing" ∧ EndlessPercentage text := by
  unfold propertyText EndlessPercentage
  by_cases hspacing : property = "letter-spacing"
  · subst hspacing
    rw [if_neg (by simp), if_pos rfl]
    cases hpercentage : percentage? text.toList with
    | none => simp
    | some parts =>
      obtain ⟨negative, amount⟩ := parts
      simp only [emLength_fault_iff, Option.some.injEq, Prod.mk.injEq, true_and]
      constructor
      · exact fun h => ⟨_, _, ⟨rfl, rfl⟩, h⟩
      · rintro ⟨negative', amount', ⟨rfl, rfl⟩, h⟩
        exact h
  · rw [if_neg hspacing]
    split <;> simp [hspacing]

/-- The texts for no value are no percentages. -/
theorem not_endlessPercentage_of_blank {text : String} (h : text ∈ blankWords) :
    ¬EndlessPercentage text := by
  rintro ⟨negative, amount, hpercentage, -⟩
  simp only [blankWords, List.mem_cons, List.not_mem_nil, or_false] at h
  rcases h with rfl | rfl | rfl <;> cases hpercentage

/-- A value with a text cannot be shown exactly if the text is an endless percentage that becomes a
length. -/
theorem declarationValue_fault_iff_of_rawText {property : String} {value : Value} {text : String}
    (htext : rawText? value = .ok (some text)) :
    (∃ fault, declarationValue property value = .error fault) ↔
      property = "letter-spacing" ∧ EndlessPercentage text := by
  unfold declarationValue
  rw [htext, ok_bind]
  dsimp only
  by_cases hblank : blankWords.contains text = true
  · rw [if_pos hblank]
    refine iff_of_false (by simp [pure, Except.pure]) ?_
    exact fun h => not_endlessPercentage_of_blank (by simpa using hblank) h.2
  · rw [if_neg hblank, ← propertyText_fault_iff]
    simp [bind_eq_error_iff, pure, Except.pure]

/-- A value cannot be shown exactly if it is an endless number, or an endless percentage that
becomes a length. -/
theorem declarationValue_fault_iff {property : String} {value : Value} :
    (∃ fault, declarationValue property value = .error fault) ↔
      EndlessDeclaration property value := by
  unfold EndlessDeclaration Value.IsEndless
  cases value with
  | list items => simp [declarationValue, rawText?, ok_bind, pure, Except.pure]
  | map entries => simp [declarationValue, rawText?, ok_bind, pure, Except.pure]
  | scalar s =>
    cases s with
    | null => simp [declarationValue, rawText?, ok_bind, pure, Except.pure]
    | bool b => simp [declarationValue, rawText?, ok_bind, pure, Except.pure]
    | calendar time => simp [declarationValue, rawText?, ok_bind, pure, Except.pure]
    | str text =>
      rw [declarationValue_fault_iff_of_rawText rfl]
      simp
    | num n =>
      simp only [Value.scalar.injEq, Scalar.num.injEq, reduceCtorEq, false_and, exists_false,
        and_false, or_false, exists_eq_left']
      rw [← Number.styleText_fault_iff]
      cases htext : n.styleText with
      | error fault =>
        refine iff_of_true ⟨fault, ?_⟩ ⟨fault, rfl⟩
        rw [declarationValue, rawText?, htext]
        rfl
      | ok text =>
        have hraw : rawText? (.num n) = .ok (some (String.ofList text)) := by
          rw [rawText?, htext]
          rfl
        rw [declarationValue_fault_iff_of_rawText hraw]
        refine iff_of_false ?_ (by simp)
        rintro ⟨-, negative, amount, hpercentage, -⟩
        rw [String.toList_ofList,
          percentage?_of_isStyleNumber (Number.isStyleNumber_of_styleText htext)] at hpercentage
        cases hpercentage

/-- The declarations of a bag cannot be written exactly if one of its values cannot be shown. -/
theorem declarations_fault_iff {bag : PropertyBag} :
    (∃ fault, declarations bag = .error fault) ↔
      ∃ entry ∈ bag, ∃ property, stylesheetProperty? entry.1 = some property ∧
        EndlessDeclaration property entry.2 := by
  have hmap : ∀ outcome : Except Fault (List (Option Declaration)),
      List.filterMap id <$> outcome = outcome.map (List.filterMap id) := fun _ => rfl
  unfold declarations
  simp only [hmap, map_eq_error_iff, mapM_fault_iff]
  refine exists_congr fun entry => and_congr_right fun _ => ?_
  unfold declaration?
  cases stylesheetProperty? entry.1 with
  | none => simp
  | some property => simp [map_eq_error_iff, declarationValue_fault_iff]

/-- A stylesheet cannot be written exactly if one of its presets has a value that cannot be
shown. -/
theorem presetSheet_fault_iff {presets : Keyed Preset} {annotate : Bool} :
    (∃ fault, presetSheet presets annotate = .error fault) ↔
      ∃ preset ∈ presets, ∃ entry ∈ preset.2.properties, ∃ property,
        stylesheetProperty? entry.1 = some property ∧ EndlessDeclaration property entry.2 := by
  have hmap : ∀ outcome : Except Fault (List String),
      joinRules <$> outcome = outcome.map joinRules := fun _ => rfl
  unfold presetSheet
  simp only [hmap, map_eq_error_iff, mapM_fault_iff, Preset.rule, presetRule,
    declarations_fault_iff]

/-- Sides, classes and stylesheets are made of all data but endless numbers, and endless
percentages where they become lengths. -/
theorem made_iff_not_endless (raw : Value) (attributes : Value.Entries) (slugs : List String)
    (presets : Keyed Preset) (annotate : Bool) :
    ((∃ sides, normalize raw = .ok sides) ↔ ¬raw.HoldsEndless) ∧
    ((∃ classes, (compileSpacing (.map attributes) (.list (slugs.map .str))).outcome =
        .ok classes) ↔
      ¬∃ category : StyleCategory, (attributes.get category.name).SetsEndless) ∧
    ((∃ sheet, presetSheet presets annotate = .ok sheet) ↔
      ¬∃ preset ∈ presets, ∃ entry ∈ preset.2.properties, ∃ property,
        stylesheetProperty? entry.1 = some property ∧ EndlessDeclaration property entry.2) := by
  refine ⟨?_, ?_, ?_⟩
  · rw [exists_ok_iff, normalize_fault_iff]
  · rw [exists_ok_iff, compileSpacing_fault_iff]
  · rw [exists_ok_iff, presetSheet_fault_iff]

/-- Not all data has sides: infinity has none. -/
theorem not_normalize_ok_infinite : ¬∀ raw, ∃ sides, normalize raw = .ok sides := by
  intro h
  obtain ⟨sides, hsides⟩ := h (.float (.infinite false))
  cases hsides

end StyleTokens
