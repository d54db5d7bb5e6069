import StyleTokens.Cache.Key
import StyleTokens.Preset.Stylesheet
import StyleTokens.Proofs.Json.Canonical
import StyleTokens.Proofs.Text.Hex
import StyleTokens.Settings.Basic

/-!
# What the key of a stylesheet tells

The canonical text that a key is the digest of holds everything that a stylesheet is made from: ids,
labels and properties in order, and the settings. The key itself is sixty-four hexadecimal digits,
so what a store's key of a stylesheet begins with is told apart from it.
-/

namespace StyleTokens

open Json (IsDocument AreDocuments AreMembers Alike)

/-- Values that are the same up to the order of entries have the same text in a declaration. -/
theorem Json.Alike.rawText?_eq {v w : Value} (h : Alike v w) : rawText? v = rawText? w := by
  have hsorted : ∀ {v common : Value},
      Json.sorted v = .ok common → rawText? v = rawText? common := by
    intro v common h
    cases v with
    | scalar s =>
      rw [Json.sorted] at h
      rw [Except.ok.inj h]
    | list items =>
      obtain ⟨others, rfl, -⟩ := Json.sorted_list_eq_ok_iff.mp h
      rfl
    | map entries =>
      obtain ⟨inner, others, rfl, -, -⟩ := Json.exists_of_sorted_map h
      rfl
  obtain ⟨common, hv, hw⟩ := h
  rw [hsorted hv, hsorted hw]

/-- Bags with the same names in order, and values that are the same up to the order of entries. -/
def BagsAlike (bag other : PropertyBag) : Prop :=
  List.Forall₂ (fun property property' => property.1 = property'.1 ∧ Alike property.2 property'.2)
    bag other

/-- Presets under the same ids in order, with the same labels and alike properties. -/
def PresetsAlike (presets others : Keyed Preset) : Prop :=
  List.Forall₂ (fun entry other => entry.1 = other.1 ∧ entry.2.label = other.2.label ∧
    BagsAlike entry.2.properties other.2.properties) presets others

theorem declaration?_congr (name : String) {v w : Value} (h : Alike v w) :
    declaration? name v = declaration? name w := by
  unfold declaration? declarationValue
  rw [h.rawText?_eq]

theorem declarations_congr {bag other : PropertyBag} (h : BagsAlike bag other) :
    declarations bag = declarations other := by
  unfold declarations
  rw [mapM_eq_of_forall₂ (h.imp fun property property' hsame => ?_)]
  obtain ⟨name, value⟩ := property
  obtain ⟨name', value'⟩ := property'
  obtain ⟨rfl, halike⟩ := hsame
  exact declaration?_congr name halike

/-- Presets that are alike have the same stylesheet. -/
theorem presetSheet_congr {presets others : Keyed Preset} (h : PresetsAlike presets others)
    (annotate : Bool) : presetSheet presets annotate = presetSheet others annotate := by
  unfold presetSheet
  rw [mapM_eq_of_forall₂ (h.imp fun entry other hsame => ?_)]
  obtain ⟨id, preset⟩ := entry
  obtain ⟨id', preset'⟩ := other
  obtain ⟨rfl, hlabel, hbag⟩ := hsame
  unfold Preset.rule presetRule
  simp only at hlabel hbag ⊢
  rw [hlabel, declarations_congr hbag]

/-- Two maps of one shape that are alike have alike values under both of their keys. -/
private theorem alike_pair {first second : String} (hne : first ≠ second) {v w v' w' : Value}
    (h : Alike (.ofFields [(first, v), (second, w)]) (.ofFields [(first, v'), (second, w')])) :
    Alike v v' ∧ Alike w w' := by
  have hnodup : ([(Scalar.str first, v'), (Scalar.str second, w')].map (·.1)).Nodup := by
    simpa using hne
  have halike : Alike (.map [(.str first, v), (.str second, w)])
      (.map [(.str first, v'), (.str second, w')]) := h
  exact ⟨halike.entry hnodup List.mem_cons_self List.mem_cons_self,
    halike.entry hnodup (List.mem_cons_of_mem _ List.mem_cons_self)
      (List.mem_cons_of_mem _ List.mem_cons_self)⟩

/-- Two lists of two items that are alike have alike items. -/
private theorem alike_two {v w v' w' : Value} (h : Alike (.list [v, w]) (.list [v', w'])) :
    Alike v v' ∧ Alike w w' := by
  cases h.items with
  | cons hfirst hrest =>
    cases hrest with
    | cons hsecond _ => exact ⟨hfirst, hsecond⟩

/-- What two presets contribute tells their labels and properties. -/
theorem alike_presetInputs {label label' : String} {bag bag' : PropertyBag}
    (h : Alike (presetInputs (.str label) bag) (presetInputs (.str label') bag')) :
    label = label' ∧ BagsAlike bag bag' := by
  obtain ⟨hlabel, hproperties⟩ := alike_pair (by simp) h
  refine ⟨Scalar.str.inj hlabel.scalar_inj, ?_⟩
  have hitems := hproperties.items
  rw [List.forall₂_map_left_iff, List.forall₂_map_right_iff] at hitems
  refine hitems.imp fun property property' hpair => ?_
  obtain ⟨hname, hvalue⟩ := alike_two hpair
  exact ⟨Scalar.str.inj hname.scalar_inj, hvalue⟩

/-- What two stylesheets are made from tells their presets and their settings. -/
theorem alike_inputsOfPresets {presets presets' : Keyed Preset}
    {flags flags' : List (String × Value)}
    (h : Alike (inputsOfPresets presets flags) (inputsOfPresets presets' flags')) :
    PresetsAlike presets presets' ∧
      Alike (.ofFields flags) (.ofFields flags') := by
  obtain ⟨hpresets, hflags⟩ := alike_pair (by simp) h
  refine ⟨?_, hflags⟩
  have hitems := hpresets.items
  rw [List.forall₂_map_left_iff, List.forall₂_map_right_iff] at hitems
  refine hitems.imp fun entry other hpair => ?_
  obtain ⟨hid, hinputs⟩ := alike_two hpair
  obtain ⟨hlabel, hbag⟩ := alike_presetInputs hinputs
  exact ⟨Scalar.str.inj hid.scalar_inj, hlabel, hbag⟩

/-- The settings that change a stylesheet are told apart by their truth, too. -/
theorem alike_flags {settings settings' : OutputSettings}
    (h : Alike (.ofFields settings.flags) (.ofFields settings'.flags)) :
    settings.annotate.truthy = settings'.annotate.truthy :=
  (alike_pair (by simp) h).1.truthy_eq

/-- Values in two fields of different names are a document if both of them are. -/
theorem isDocument_pair {first second : String} (hne : first ≠ second) {v w : Value}
    (hv : IsDocument v) (hw : IsDocument w) : IsDocument (.ofFields [(first, v), (second, w)]) := by
  have hnodup : ([(Scalar.str first, v), (Scalar.str second, w)].map (·.1)).Nodup := by
    simpa using hne
  rw [Value.ofFields, IsDocument]
  refine ⟨hnodup, ?_⟩
  simp [AreMembers, hv, hw]

/-- What a preset contributes is a document if its label and its properties are. -/
theorem isDocument_presetInputs {label : Value} (hlabel : IsDocument label) {bag : PropertyBag}
    (h : ∀ property ∈ bag, IsDocument property.2) : IsDocument (presetInputs label bag) := by
  refine isDocument_pair (by simp) hlabel ?_
  rw [IsDocument, Json.areDocuments_iff]
  intro item hitem
  obtain ⟨property, hproperty, rfl⟩ := List.mem_map.mp hitem
  simp [IsDocument, AreDocuments, Json.IsAtom, h property hproperty]

/-- What a stylesheet is made from is a document if the properties of all presets and the settings
are. -/
theorem isDocument_inputsOfPresets {presets : Keyed Preset} {settings : OutputSettings}
    (hpresets : ∀ entry ∈ presets, ∀ property ∈ entry.2.properties, IsDocument property.2)
    (hannotate : IsDocument settings.annotate) (hpresetCss : IsDocument settings.presetCss) :
    IsDocument (inputsOfPresets presets settings.flags) := by
  refine isDocument_pair (by simp) ?_ (isDocument_pair (by simp) hannotate hpresetCss)
  rw [IsDocument, Json.areDocuments_iff]
  intro item hitem
  obtain ⟨entry, hentry, rfl⟩ := List.mem_map.mp hitem
  have hlabel : IsDocument (.str entry.2.label) := trivial
  simp [IsDocument, AreDocuments, Json.IsAtom,
    isDocument_presetInputs hlabel (hpresets entry hentry)]

/-- Stylesheets that are made from documents of one canonical text are the same. -/
theorem presetSheet_eq_of_canonical_eq {presets presets' : Keyed Preset}
    {settings settings' : OutputSettings}
    (h : IsDocument (inputsOfPresets presets settings.flags))
    (h' : IsDocument (inputsOfPresets presets' settings'.flags)) {text : String}
    (htext : Json.canonical (inputsOfPresets presets settings.flags) = .ok text)
    (htext' : Json.canonical (inputsOfPresets presets' settings'.flags) = .ok text) :
    presetSheet presets settings.annotate.truthy =
      presetSheet presets' settings'.annotate.truthy := by
  obtain ⟨hpresets, hflags⟩ := alike_inputsOfPresets (Json.alike_of_canonical_eq h h' htext htext')
  rw [alike_flags hflags, presetSheet_congr hpresets]

end StyleTokens
