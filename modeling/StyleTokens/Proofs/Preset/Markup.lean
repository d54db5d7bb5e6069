import Mathlib.Tactic.ByContra
import StyleTokens.Preset.Stylesheet
import StyleTokens.Proofs.Preset.Comment
import StyleTokens.Proofs.Preset.Reading
import StyleTokens.Proofs.Text.Markup
import StyleTokens.Render.Page

/-!
# No markup in the stylesheet of presets

Whatever a preset document holds, the stylesheet that is made from it contains no markup character:
ids are checked when the document is read, names of properties when a declaration is written, and
labels and values are cleaned. So a style element around it ends where it should.
-/

namespace StyleTokens

open Text

/-- The ids of presets are safe. -/
def SafeIds (presets : Keyed Preset) : Prop := ∀ entry ∈ presets, isSafeId entry.1 = true

/-- Presets that are read are known by safe ids. -/
theorem safeIds_of_readPresets {titles : Keyed String} {defaultGroup : Value}
    {items : Value.Entries} {presets : Keyed Preset}
    (h : (readPresets titles defaultGroup [] items).outcome = .ok presets) : SafeIds presets := by
  obtain ⟨read, hread, rfl⟩ := exists_of_readPresets h
  intro entry hentry
  have hname : entry.1 ∈ (Keyed.ofList read).names := List.mem_map_of_mem hentry
  rw [Keyed.names_ofList, List.mem_eraseDups, map_fst_of_readFrom hread] at hname
  obtain ⟨⟨id, definition⟩, hitem, heq⟩ := List.mem_map.mp hname
  exact heq ▸ isSafeId_of_mem_presetItems hitem

/-- The presets of a registry that was made from a document have safe ids. -/
theorem safeIds_of_ofDocument {document : Value} {keys : List Value} {defaultGroup : Value}
    {path : Option String} {registry : Registry}
    (h : (Registry.ofDocument document keys defaultGroup path).outcome = .ok registry) :
    SafeIds registry.presets := by
  unfold Registry.ofDocument at h
  obtain ⟨container?, -, h⟩ := Noted.outcome_bind_eq_ok_iff.mp h
  cases container? with
  | none =>
    obtain ⟨message, -, h⟩ := Noted.outcome_bind_eq_ok_iff.mp h
    obtain ⟨-, -, h⟩ := Noted.outcome_bind_eq_ok_iff.mp h
    cases h
    simp [Registry.empty, SafeIds]
  | some container =>
    obtain ⟨⟨presets, titles⟩, hread, h⟩ := Noted.outcome_bind_eq_ok_iff.mp h
    obtain ⟨-, -, h⟩ := Noted.outcome_bind_eq_ok_iff.mp h
    cases h
    unfold readContainer at hread
    split at hread
    · obtain ⟨titles', -, hread⟩ := Noted.outcome_bind_eq_ok_iff.mp hread
      obtain ⟨read, hpresets, heq⟩ := Noted.outcome_bind_eq_ok_iff.mp hread
      cases heq
      exact safeIds_of_readPresets hpresets
    · cases hread
      simp [SafeIds]

/-- A safe id has no markup. -/
theorem noMarkup_of_isSafeId {id : String} (h : isSafeId id = true) : NoMarkup id.toList := by
  simp only [isSafeId, Bool.and_eq_true, List.all_eq_true] at h
  intro c hc
  by_contra hmarkup
  have hchar := h.2 c hc
  simp only [Bool.not_eq_false, isMarkup, Bool.or_eq_true, beq_iff_eq] at hmarkup
  rcases hmarkup with ((rfl | rfl) | rfl) | rfl <;> revert hchar <;> decide

/-- A property that may stand in a stylesheet has the characters of one. -/
theorem isPropertyChar_of_stylesheetProperty {name property : String}
    (h : stylesheetProperty? name = some property) :
    ∀ c ∈ property.toList, isPropertyChar c = true := by
  unfold stylesheetProperty? at h
  dsimp only at h
  split_ifs at h with hchars
  rw [Bool.and_eq_true, List.all_eq_true] at hchars
  exact Option.some.inj h ▸ hchars.2

/-- A property that may stand in a stylesheet has no markup. -/
theorem noMarkup_of_stylesheetProperty {name property : String}
    (h : stylesheetProperty? name = some property) : NoMarkup property.toList := by
  intro c hc
  by_contra hmarkup
  have hchar := isPropertyChar_of_stylesheetProperty h c hc
  simp only [Bool.not_eq_false, isMarkup, Bool.or_eq_true, beq_iff_eq] at hmarkup
  rcases hmarkup with ((rfl | rfl) | rfl) | rfl <;> revert hchar <;> decide

/-- The text of a declaration's value has no markup. -/
theorem noMarkup_of_declarationValue {property : String} {value : Value} {text : String}
    (h : declarationValue property value = .ok (some text)) : NoMarkup text.toList := by
  unfold declarationValue at h
  obtain ⟨raw?, -, h⟩ := bind_eq_ok_iff.mp h
  cases raw? with
  | none => cases h
  | some raw =>
    dsimp only at h
    split_ifs at h with hblank
    · cases h
    · obtain ⟨cleaned, -, h⟩ := bind_eq_ok_iff.mp h
      split_ifs at h with hempty
      · cases h
      · cases h
        simp [stripMarkupString]

/-- A declaration comes from a property of the bag that may stand in a stylesheet. -/
theorem exists_of_mem_declarations {bag : PropertyBag} {lines : List Declaration}
    (h : declarations bag = .ok lines) {line : Declaration} (hline : line ∈ lines) :
    ∃ named ∈ bag, stylesheetProperty? named.1 = some line.property ∧
      declarationValue line.property named.2 = .ok (some line.value) := by
  obtain ⟨found, hfound, rfl⟩ := map_eq_ok_iff.mp h
  obtain ⟨line?, hmem, hsome⟩ := List.mem_filterMap.mp hline
  obtain ⟨named, hnamed, hdeclaration⟩ := exists_mem_of_mapM_eq_ok hfound hmem
  refine ⟨named, hnamed, ?_⟩
  rw [show line? = some line from hsome] at hdeclaration
  unfold declaration? at hdeclaration
  cases hproperty : stylesheetProperty? named.1 with
  | none => simp [hproperty] at hdeclaration
  | some property =>
    simp only [hproperty, map_eq_ok_iff, Option.map_eq_some_iff] at hdeclaration
    obtain ⟨text?, htext, text, rfl, rfl⟩ := hdeclaration
    exact ⟨rfl, htext⟩

/-- A property of the bag that may stand in a stylesheet, and has a text there, is declared. -/
theorem mem_declarations {bag : PropertyBag} {lines : List Declaration}
    (h : declarations bag = .ok lines) {name property text : String} {value : Value}
    (hmem : (name, value) ∈ bag) (hproperty : stylesheetProperty? name = some property)
    (htext : declarationValue property value = .ok (some text)) : ⟨property, text⟩ ∈ lines := by
  obtain ⟨found, hfound, rfl⟩ := map_eq_ok_iff.mp h
  obtain ⟨line?, hline, hdeclaration⟩ := exists_result_of_mem hfound hmem
  have hsome : declaration? name value = .ok (some ⟨property, text⟩) := by
    unfold declaration?
    rw [hproperty]
    exact map_eq_ok_iff.mpr ⟨some text, htext, rfl⟩
  obtain rfl : line? = some ⟨property, text⟩ := Except.ok.inj (hdeclaration.symm.trans hsome)
  exact List.mem_filterMap.mpr ⟨_, hline, rfl⟩

/-- The lines of a bag's declarations have no markup. -/
theorem noMarkup_line_of_mem_declarations {bag : PropertyBag} {lines : List Declaration}
    (h : declarations bag = .ok lines) {line : Declaration} (hline : line ∈ lines) :
    NoMarkup line.line.toList := by
  obtain ⟨named, -, hproperty, htext⟩ := exists_of_mem_declarations h hline
  have hname := noMarkup_of_stylesheetProperty hproperty
  have hvalue := noMarkup_of_declarationValue htext
  unfold Declaration.line
  simp [String.toList_append, hname, hvalue, isMarkup]

/-- The comment in front of a rule has no markup. -/
theorem noMarkup_labelComment (label : String) : NoMarkup (labelComment label).toList := by
  have htext : NoMarkup (commentText label).toList := by
    rw [commentText, String.toList_ofList]
    exact (noMarkup_stripMarkup label.toList).subset (dropCommentEnds_subset _)
  unfold labelComment
  simp [String.toList_append, htext, isMarkup]

/-- The rule of a preset with a safe id has no markup. -/
theorem noMarkup_of_rule {id : String} {preset : Preset} {annotate : Bool} {rule : String}
    (hid : isSafeId id = true) (h : preset.rule id annotate = .ok rule) :
    NoMarkup rule.toList := by
  unfold Preset.rule presetRule at h
  obtain ⟨lines, hlines, rfl⟩ := map_eq_ok_iff.mp h
  have hselector := noMarkup_of_isSafeId hid
  have hbody : NoMarkup ("\n".intercalate (lines.map Declaration.line)).toList := by
    refine noMarkup_intercalate (by simp [isMarkup]) ?_
    intro text htext
    obtain ⟨line, hline, rfl⟩ := List.mem_map.mp htext
    exact noMarkup_line_of_mem_declarations hlines hline
  have hblock : NoMarkup (ruleBlock (presetSelector id) lines).toList := by
    unfold ruleBlock presetSelector
    simp only [String.toList_append, noMarkup_append, hselector, hbody]
    simp [isMarkup]
  split
  · simp
  · rw [String.toList_append]
    refine noMarkup_append.mpr ⟨?_, hblock⟩
    cases annotate with
    | true => exact noMarkup_labelComment _
    | false => simp

/-- The stylesheet of presets with safe ids has no markup. -/
theorem noMarkup_presetSheet {presets : Keyed Preset} {annotate : Bool} {css : String}
    (hsafe : SafeIds presets) (h : presetSheet presets annotate = .ok css) :
    NoMarkup css.toList := by
  unfold presetSheet at h
  obtain ⟨rules, hrules, rfl⟩ := map_eq_ok_iff.mp h
  refine noMarkup_intercalate (by simp [isMarkup]) ?_
  intro rule hrule
  obtain ⟨⟨id, preset⟩, hmem, hpreset⟩ :=
    exists_mem_of_mapM_eq_ok hrules (List.mem_filter.mp hrule).1
  exact noMarkup_of_rule (hsafe _ hmem) hpreset

/-- The text of a style element, part by part. -/
theorem toList_styleElement {css id : String} (hcss : css.isEmpty = false) :
    (styleElement css id).toList =
      "<style id=\"".toList ++ attributeText id.toList ++ "\">\n".toList ++ css.toList ++
        "\n</style>\n".toList := by
  unfold styleElement element attributeString
  simp [hcss, String.toList_append]

/-- Around a stylesheet without markup, the markup of a style element is that of its two tags. -/
theorem count_styleElement {css : String} (id : String) (hcss : css.isEmpty = false)
    (hmarkup : NoMarkup css.toList) {c : Char} (hc : isMarkup c = true) :
    (styleElement css id).toList.count c =
      "<style id=\"".toList.count c + "\">\n".toList.count c + "\n</style>\n".toList.count c := by
  have hattribute := NoMarkup.count_eq_zero (noMarkup_attributeText id.toList) hc
  rw [toList_styleElement hcss]
  simp only [List.count_append, hattribute, NoMarkup.count_eq_zero hmarkup hc]
  omega

/-- Whatever stands in a document of presets, their stylesheet holds no angle bracket and no quote,
and the element around it holds those of its own two tags and no others. The id in the opening tag
reads back as the id that was asked for. -/
theorem documentSheet_stays_in_element {entries : Value.Entries} {keys : List Value}
    {defaultGroup : Value} {annotate : Bool} {reading : Noted RegistryNote Registry}
    {registry : Registry} {css : String}
    (hload : Registry.load (.document entries) keys defaultGroup = .done reading)
    (hregistry : reading.outcome = .ok registry)
    (hsheet : presetSheet registry.presets annotate = .ok css) :
    ('<' ∉ css.toList ∧ '>' ∉ css.toList ∧ '"' ∉ css.toList ∧ '\'' ∉ css.toList) ∧
    ∀ id : String, styleElement css id ≠ "" →
      (styleElement css id).toList.count '<' = 2 ∧
      (styleElement css id).toList.count '>' = 2 ∧
      (styleElement css id).toList.count '"' = 2 ∧
      ∃ written : List Char,
        (styleElement css id).toList =
          "<style id=\"".toList ++ written ++ "\">\n".toList ++ css.toList ++
            "\n</style>\n".toList ∧
        resolveReferences written = id.toList := by
  have hmarkup : NoMarkup css.toList := by
    cases hload
    exact noMarkup_presetSheet (safeIds_of_ofDocument hregistry) hsheet
  refine ⟨noMarkup_iff.mp hmarkup, fun id helement => ?_⟩
  have hcss : css.isEmpty = false := by
    cases hempty : css.isEmpty with
    | true => exact absurd (by simp [styleElement, hempty]) helement
    | false => rfl
  have hcount {c : Char} (hc : isMarkup c = true) := count_styleElement id hcss hmarkup hc
  refine ⟨?_, ?_, ?_, attributeText id.toList, toList_styleElement hcss,
    resolveReferences_attributeText id.toList⟩
  · rw [hcount rfl]
    simp
  · rw [hcount rfl]
    simp
  · rw [hcount rfl]
    simp

/-- A document that tries to end its element early, in an id, a label, a name and a value. -/
def hostileDocument : Value.Entries :=
  [(.str "items", .map [
    (.str "</style>", .map [(.str "properties", .map [(.str "color", .str "red")])]),
    (.str "x", .map [
      (.str "label", .str "</style><script>"),
      (.str "properties", .map [
        (.str "</style>", .str "1"),
        (.str "color", .str "red</style>")])])])]

theorem hostileDocument_stays_in_element :
    let css := "/* Typography Preset: /stylescript */\n.has-type-preset-x \x7b\n    color: red/style;\n\x7d"
    ('<' ∉ css.toList ∧ '>' ∉ css.toList ∧ '"' ∉ css.toList ∧ '\'' ∉ css.toList) ∧
    ∀ id : String, styleElement css id ≠ "" →
      (styleElement css id).toList.count '<' = 2 ∧
      (styleElement css id).toList.count '>' = 2 ∧
      (styleElement css id).toList.count '"' = 2 ∧
      ∃ written : List Char,
        (styleElement css id).toList =
          "<style id=\"".toList ++ written ++ "\">\n".toList ++ css.toList ++
            "\n</style>\n".toList ∧
        resolveReferences written = id.toList :=
  @documentSheet_stays_in_element hostileDocument [] (.str "custom") true _ _ _ rfl rfl rfl

end StyleTokens
