import StyleTokens.Proofs.Endless
import StyleTokens.Proofs.Preset.LetterSpacing
import StyleTokens.Proofs.Preset.Markup

/-!
# Words for no value

A value that is empty, `undefined` or `null` is left out of a stylesheet. It is looked at as it was
given, and its markup characters are removed afterwards: what is empty then is left out too, but one
of the words may come to light and is shown. This is the only way for them to be shown.
-/

namespace StyleTokens

open Text

/-- A text is no word for no value, but becomes one when its markup characters are removed. -/
def MasksBlank (raw : String) : Prop := raw ∉ blankWords ∧ stripMarkupString raw ∈ blankWords

instance (raw : String) : Decidable (MasksBlank raw) :=
  inferInstanceAs (Decidable (raw ∉ blankWords ∧ stripMarkupString raw ∈ blankWords))

/-- The words for no value, but for the empty one. -/
theorem mem_blankWords_iff {text : String} (hne : text ≠ "") :
    text ∈ blankWords ↔ text = "undefined" ∨ text = "null" := by
  simp [blankWords, hne]

/-- Every word for no value that is not empty has a letter u. -/
theorem u_mem_of_mem_blankWords {text : String} (h : text ∈ blankWords) (hne : text ≠ "") :
    'u' ∈ text.toList := by
  rcases (mem_blankWords_iff hne).mp h with rfl | rfl <;> simp

/-- A character that is no markup is kept. -/
theorem mem_stripMarkupString_iff {c : Char} (hc : isMarkup c = false) {raw : String} :
    c ∈ (stripMarkupString raw).toList ↔ c ∈ raw.toList := by
  rw [stripMarkupString, String.toList_ofList, stripMarkup, List.mem_filter]
  simp [hc]

/-! ### What the rules of a property make of a value -/

/-- A percentage has its sign at the end. -/
theorem percent_mem_of_percentage? {text : List Char} {number : Bool × Decimal}
    (h : percentage? text = some number) : '%' ∈ text := by
  unfold percentage? at h
  split at h
  · rename_i hreverse
    rw [← List.mem_reverse, hreverse]
    exact List.mem_cons_self
  · cases h

/-- The length that is made of a percentage is a text of a number with its unit. -/
theorem exists_of_emLength {negative : Bool} {amount : Decimal} {length : String}
    (h : emLength negative amount = .ok length) :
    ∃ digits, IsStyleNumber digits ∧ length = String.ofList digits ++ "em" := by
  obtain ⟨digits, hdigits, rfl⟩ := map_eq_ok_iff.mp h
  exact ⟨digits, Number.isStyleNumber_of_significantText? hdigits, rfl⟩

/-- A value is shown as it was given, as the word for a normal height, or as a length. -/
theorem propertyText_cases {property raw styled : String}
    (h : propertyText property raw = .ok styled) :
    styled = raw ∨ styled = "normal" ∨
      ∃ digits, IsStyleNumber digits ∧ styled = String.ofList digits ++ "em" := by
  unfold propertyText at h
  split at h
  · cases h
    exact .inr (.inl rfl)
  · split at h
    · split at h
      · exact .inr (.inr (exists_of_emLength h))
      · cases h
        exact .inl rfl
    · cases h
      exact .inl rfl

/-- No rule applies to a text that becomes a word for no value. -/
theorem propertyText_of_masksBlank {raw : String} (h : MasksBlank raw) (property : String) :
    propertyText property raw = .ok raw := by
  have hauto : raw ≠ "auto" := by
    rintro rfl
    exact absurd h (by decide +kernel)
  have hpercentage : percentage? raw.toList = none := by
    rw [Option.eq_none_iff_forall_ne_some]
    intro number hnumber
    have hpercent : '%' ∈ (stripMarkupString raw).toList :=
      (mem_stripMarkupString_iff (by decide)).mpr (percent_mem_of_percentage? hnumber)
    have hmem := h.2
    simp only [blankWords, List.mem_cons, List.not_mem_nil, or_false] at hmem
    rcases hmem with hword | hword | hword <;> rw [hword] at hpercent <;> simp at hpercent
  unfold propertyText
  rw [if_neg fun hheight => hauto hheight.2, hpercentage]
  exact ite_self _

/-! ### What a declaration shows -/

/-- The text of a declaration is what is left of a value that stands for one. -/
theorem exists_of_declarationValue {property : String} {value : Value} {text : String}
    (h : declarationValue property value = .ok (some text)) :
    ∃ raw styled, rawText? value = .ok (some raw) ∧ raw ∉ blankWords ∧
      propertyText property raw = .ok styled ∧ text = stripMarkupString styled ∧ text ≠ "" := by
  unfold declarationValue at h
  obtain ⟨raw?, hraw, h⟩ := bind_eq_ok_iff.mp h
  cases raw? with
  | none => cases h
  | some raw =>
    dsimp only at h
    split at h
    · cases h
    · rename_i hblank
      obtain ⟨styled, hstyled, h⟩ := bind_eq_ok_iff.mp h
      split at h
      · cases h
      · rename_i hempty
        cases h
        refine ⟨raw, styled, hraw, by simpa using hblank, hstyled, rfl, ?_⟩
        simpa using hempty

/-- A text that becomes a word for no value is shown as that word, unless this is empty. -/
theorem declarationValue_of_masksBlank {raw : String} (h : MasksBlank raw)
    (hne : stripMarkupString raw ≠ "") (property : String) :
    declarationValue property (.str raw) = .ok (some (stripMarkupString raw)) := by
  have hblank : ¬blankWords.contains raw = true := by simpa using h.1
  have hempty : ¬(stripMarkupString raw).isEmpty = true := by simpa using hne
  unfold declarationValue
  rw [show rawText? (.str raw) = .ok (some raw) from rfl, ok_bind]
  dsimp only
  rw [if_neg hblank, propertyText_of_masksBlank h, ok_bind, if_neg hempty]
  rfl

/-- Neither a number nor a text that a rule has made becomes a word for no value. -/
theorem masksBlank_of_mem_blankWords {property : String} {value : Value} {text : String}
    (h : declarationValue property value = .ok (some text)) (hblank : text ∈ blankWords) :
    ∃ raw, value = .str raw ∧ MasksBlank raw := by
  obtain ⟨raw, styled, hraw, hgiven, hstyled, rfl, hne⟩ := exists_of_declarationValue h
  have hu : 'u' ∈ styled.toList :=
    (mem_stripMarkupString_iff (by decide)).mp (u_mem_of_mem_blankWords hblank hne)
  have hnumber {digits : List Char} (hdigits : IsStyleNumber digits) : 'u' ∉ digits := by
    intro hmem
    rcases hdigits.2 'u' hmem with hdigit | hdigit <;> revert hdigit <;> decide
  rcases propertyText_cases hstyled with rfl | rfl | ⟨digits, hdigits, rfl⟩
  · -- The value is shown as it was given, so it is no number.
    cases value with
    | scalar s =>
      cases s with
      | str given =>
        obtain rfl : given = styled := by
          have := Except.ok.inj hraw
          exact Option.some.inj this
        exact ⟨given, rfl, hgiven, hblank⟩
      | num n =>
        obtain ⟨digits, hdigits, hsome⟩ := map_eq_ok_iff.mp hraw
        obtain rfl := Option.some.inj hsome
        rw [String.toList_ofList] at hu
        exact absurd hu (hnumber (Number.isStyleNumber_of_styleText hdigits))
      | null => cases hraw
      | bool b => cases hraw
      | calendar t => cases hraw
    | list items => cases hraw
    | map entries => cases hraw
  · exact absurd hu (by simp)
  · rw [String.toList_append, String.toList_ofList, List.mem_append] at hu
    rcases hu with hdigit | hunit
    · exact absurd hdigit (hnumber hdigits)
    · exact absurd hunit (by simp)

/-- What is shown of a value is a word for no value exactly if the value is a text that becomes one
when its markup characters are removed. -/
theorem mem_blankWords_iff_masksBlank {property : String} {value : Value} {text : String}
    (h : declarationValue property value = .ok (some text)) :
    text ∈ blankWords ↔ ∃ raw, value = .str raw ∧ MasksBlank raw := by
  refine ⟨masksBlank_of_mem_blankWords h, ?_⟩
  rintro ⟨given, rfl, hmasks⟩
  obtain ⟨raw, styled, hraw, -, hstyled, rfl, -⟩ := exists_of_declarationValue h
  obtain rfl : given = raw := Option.some.inj (Except.ok.inj hraw)
  rw [propertyText_of_masksBlank hmasks] at hstyled
  obtain rfl := Except.ok.inj hstyled
  exact hmasks.2

/-- What is shown of a value is not empty and has no markup. It is a word for no value exactly if the
value is a text that becomes one when its markup characters are removed; so such a word stands in a
line exactly if one of the properties has such a text. -/
theorem blankWord_shown_iff {property : String} {value : Value} {text : String}
    {bag : PropertyBag} {lines : List Declaration}
    (hshown : declarationValue property value = .ok (some text))
    (hlines : declarations bag = .ok lines) :
    (text ≠ "" ∧
      ('<' ∉ text.toList ∧ '>' ∉ text.toList ∧ '"' ∉ text.toList ∧ '\'' ∉ text.toList) ∧
      (text = "undefined" ∨ text = "null" ↔ ∃ raw, value = .str raw ∧ MasksBlank raw)) ∧
    ((∃ line ∈ lines, line.value = "undefined" ∨ line.value = "null") ↔
      ∃ name raw, (name, Value.str raw) ∈ bag ∧ (stylesheetProperty? name).isSome = true ∧
        MasksBlank raw ∧ stripMarkupString raw ≠ "") := by
  have hne {property : String} {value : Value} {text : String}
      (h : declarationValue property value = .ok (some text)) : text ≠ "" := by
    obtain ⟨-, -, -, -, -, -, hne⟩ := exists_of_declarationValue h
    exact hne
  refine ⟨⟨hne hshown, noMarkup_iff.mp (noMarkup_of_declarationValue hshown), ?_⟩, ?_⟩
  · rw [← mem_blankWords_iff (hne hshown)]
    exact mem_blankWords_iff_masksBlank hshown
  · constructor
    · rintro ⟨line, hline, hword⟩
      obtain ⟨⟨name, given⟩, hmem, hproperty, hvalue⟩ := exists_of_mem_declarations hlines hline
      rw [← mem_blankWords_iff (hne hvalue)] at hword
      obtain ⟨raw, rfl, hmasks⟩ := masksBlank_of_mem_blankWords hvalue hword
      refine ⟨name, raw, hmem, by rw [hproperty]; rfl, hmasks, fun hempty => ?_⟩
      obtain ⟨given, styled, hraw, -, hstyled, hkept, hsome⟩ := exists_of_declarationValue hvalue
      obtain rfl : raw = given := Option.some.inj (Except.ok.inj hraw)
      rw [propertyText_of_masksBlank hmasks] at hstyled
      obtain rfl := Except.ok.inj hstyled
      exact hsome (hkept.trans hempty)
    · rintro ⟨name, raw, hmem, hproperty, hmasks, hsome⟩
      obtain ⟨property, hproperty⟩ := Option.isSome_iff_exists.mp hproperty
      refine ⟨_, mem_declarations hlines hmem hproperty
        (declarationValue_of_masksBlank hmasks hsome property), ?_⟩
      exact (mem_blankWords_iff hsome).mp hmasks.2

/-- A word in quotes is shown without them, as the value and in the line. -/
theorem blankWord_shown_iff_quoted :
    let bag : PropertyBag := [("content", .str "\"null\""), ("fontSize", .int 12)]
    let lines : List Declaration := [⟨"content", "null"⟩, ⟨"font-size", "12"⟩]
    declarationValue "content" (.str "\"null\"") = .ok (some "null") ∧
      declarations bag = .ok lines ∧
      (∃ raw, Value.str "\"null\"" = .str raw ∧ MasksBlank raw) ∧
      ∃ name raw, (name, Value.str raw) ∈ bag ∧ (stylesheetProperty? name).isSome = true ∧
        MasksBlank raw ∧ stripMarkupString raw ≠ "" := by
  intro bag lines
  have hshown : declarationValue "content" (.str "\"null\"") = .ok (some "null") := by
    decide +kernel
  have hlines : declarations bag = .ok lines := by decide +kernel
  obtain ⟨⟨-, -, hvalue⟩, hline⟩ := blankWord_shown_iff hshown hlines
  exact ⟨hshown, hlines, hvalue.mp (.inr rfl),
    hline.mp ⟨⟨"content", "null"⟩, List.mem_cons_self, .inr rfl⟩⟩

/-- Not everything that is shown stands for a value. -/
theorem not_blankWord_dropped :
    ¬∀ (property : String) (value : Value) (shown : Option String),
      declarationValue property value = .ok shown →
        shown = none ∨ ∃ text, shown = some text ∧ text ≠ "" ∧ NoMarkup text.toList ∧
          text ≠ "undefined" ∧ text ≠ "null" := by
  intro h
  have hshown : declarationValue "content" (.str "\"null\"") = .ok (some "null") := by
    decide +kernel
  rcases h _ _ _ hshown with hnone | ⟨text, hsome, -, -, -, hne⟩
  · cases hnone
  · exact hne (Option.some.inj hsome).symm

end StyleTokens
