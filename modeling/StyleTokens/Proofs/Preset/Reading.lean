import StyleTokens.Preset.Property
import StyleTokens.Preset.Source
import StyleTokens.Proofs.Keyed
import StyleTokens.Proofs.Outcome
import StyleTokens.Proofs.Preset.Label
import StyleTokens.Proofs.Text.Case

/-!
# What reading presets gives

The items of a container that are read are those with a safe id whose definition is a map. Each
gives a preset with its id, a label, a group, and properties under canonical names; of those with
the same id the last one is kept, where the first one stood.
-/

namespace StyleTokens

/-! ### Canonical names of properties -/

/-- A text of small characters has no place for a hyphen. -/
theorem hyphenated_of_small {name : List Char} (h : ∀ c ∈ name, Text.IsSmall c) :
    hyphenated name = name := by
  unfold hyphenated
  induction name with
  | nil => rfl
  | cons c rest ih =>
    obtain ⟨hc, hrest⟩ := List.forall_mem_cons.mp h
    rw [List.flatMap_cons, if_neg hc.not_capital, ih hrest, List.singleton_append]

/-- A text of small characters is its own canonical name. -/
theorem kebabCase_of_small {name : List Char} (h : ∀ c ∈ name, Text.IsSmall c) :
    kebabCase name = name := by
  rw [kebabCase, hyphenated_of_small h, Text.lower_of_small h]

/-- A canonical name is its own canonical name. -/
theorem canonicalProperty_canonicalProperty (name : String) :
    canonicalProperty (canonicalProperty name) = canonicalProperty name := by
  unfold canonicalProperty
  rw [String.toList_ofList, kebabCase_of_small]
  exact fun c hc => Text.isSmall_of_mem_lower hc

/-- A bag of properties that stand under canonical names, each of them once. -/
structure PropertyBag.IsCanonical (bag : PropertyBag) : Prop where
  /-- No name comes up twice. -/
  nodup : bag.names.Nodup
  /-- Every name is canonical. -/
  fixed : ∀ name ∈ bag.names, canonicalProperty name = name

/-- A bag under canonical names is canonical. -/
theorem isCanonical_canonicalBag (bag : PropertyBag) : (canonicalBag bag).IsCanonical := by
  refine ⟨Keyed.nodup_names_ofList _, fun name hname => ?_⟩
  rw [canonicalBag, Keyed.names_ofList, List.mem_eraseDups, List.map_map] at hname
  obtain ⟨property, -, rfl⟩ := List.mem_map.mp hname
  exact canonicalProperty_canonicalProperty property.1

/-- The bag that unchecked data holds is canonical. -/
theorem isCanonical_canonicalBagOfValue (value : Value) :
    (canonicalBagOfValue value).IsCanonical := by
  cases value with
  | scalar s => exact ⟨List.nodup_nil, by simp [canonicalBagOfValue, Keyed.names]⟩
  | list items => exact ⟨List.nodup_nil, by simp [canonicalBagOfValue, Keyed.names]⟩
  | map entries => exact isCanonical_canonicalBag _

/-! ### Presets that are read -/

/-- A text that is given is not empty. -/
theorem ne_empty_of_givenText? {value : Value} {text : String} (h : givenText? value = some text) :
    text ≠ "" := by
  obtain ⟨-, hne⟩ := Option.filter_eq_some_iff.mp h
  simpa using hne

/-- The group of a preset: its own, or else the default one. -/
def givenGroup (defaultGroup : Value) (entries : Value.Entries) : Except Fault (Option String) :=
  match givenText? (entries.get "group") with
  | some group => .ok (some group)
  | none => defaultGroupText defaultGroup

/-- The label of a preset: its own, or else the one made from the id. -/
def givenLabel (id : String) (entries : Value.Entries) : Except Fault String :=
  match givenText? (entries.get "label") with
  | some label => .ok label
  | none => derivedLabel id

/-- A definition gives a preset once its group, its label and its properties are known. -/
theorem presetOfEntries_eq (titles : Keyed String) (defaultGroup : Value) (id : String)
    (entries : Value.Entries) :
    presetOfEntries titles defaultGroup id entries =
      givenGroup defaultGroup entries >>= fun group? => givenLabel id entries >>= fun label =>
        readProperties (entries.get "properties") >>= fun properties =>
          match group? with
          | none => .error (.invalid [("group", .notText)])
          | some group => .ok {
              id := id
              label := label
              description := (givenText? (entries.get "description")).getD ""
              group := group
              groupTitle := (titles.find? group).or (givenText? (entries.get "group_title"))
              properties := properties } := by
  unfold presetOfEntries givenGroup givenLabel
  cases givenText? (entries.get "group") <;> cases givenText? (entries.get "label") <;> rfl

/-- Properties that are read stand under their canonical names. -/
theorem eq_of_readProperties {value : Value} {properties : PropertyBag}
    (h : readProperties value = .ok properties) : properties = canonicalBagOfValue value := by
  obtain ⟨-, -, h⟩ := bind_eq_ok_iff.mp h
  exact (Except.ok.inj h).symm

/-- Titles that are read are those of the groups. -/
theorem eq_of_readTitles {groups : Value} {titles : Keyed String}
    (h : readTitles groups = .ok titles) : titles = titlesOfValue groups := by
  obtain ⟨-, -, h⟩ := bind_eq_ok_iff.mp h
  exact (Except.ok.inj h).symm

/-- A key that is written is written as a text by itself. -/
theorem eq_of_scalar_written {key : Scalar} {text : String} (h : key.written = .ok text) :
    text = key.display := by
  unfold Scalar.written at h
  split at h
  · cases h
  · exact (Except.ok.inj h).symm

/-- A definition gives a preset with its group and its label, under its id. -/
theorem presetOfEntries_cases {titles : Keyed String} {defaultGroup : Value} {id : String}
    {entries : Value.Entries} {preset : Preset}
    (h : presetOfEntries titles defaultGroup id entries = .ok preset) :
    givenGroup defaultGroup entries = .ok (some preset.group) ∧
      givenLabel id entries = .ok preset.label ∧ preset.id = id ∧
      preset.properties = canonicalBagOfValue (entries.get "properties") := by
  rw [presetOfEntries_eq] at h
  obtain ⟨group?, hgroup, h⟩ := bind_eq_ok_iff.mp h
  obtain ⟨label, hlabel, h⟩ := bind_eq_ok_iff.mp h
  obtain ⟨properties, hproperties, h⟩ := bind_eq_ok_iff.mp h
  cases group? with
  | none => cases h
  | some group =>
    cases h
    exact ⟨hgroup, hlabel, rfl, eq_of_readProperties hproperties⟩

/-- A preset with the id that it is known by, a label, a group, and properties under canonical
names. -/
structure Preset.IsWellFormed (preset : Preset) (id : String) : Prop where
  /-- It is known by its own id. -/
  id_eq : preset.id = id
  /-- It has a label. -/
  label_ne : preset.label ≠ ""
  /-- It is in a group. -/
  group_ne : preset.group ≠ ""
  /-- Its properties stand under canonical names, each of them once. -/
  properties : preset.properties.IsCanonical

/-- A group is not empty if the default one is not. -/
theorem ne_empty_of_givenGroup {defaultGroup group : String} {entries : Value.Entries}
    (hdefault : defaultGroup ≠ "") (h : givenGroup (.str defaultGroup) entries = .ok (some group)) :
    group ≠ "" := by
  unfold givenGroup at h
  cases hgiven : givenText? (entries.get "group") with
  | some own =>
    rw [hgiven] at h
    rw [← Option.some.inj (Except.ok.inj h)]
    exact ne_empty_of_givenText? hgiven
  | none =>
    rw [hgiven] at h
    rwa [← Option.some.inj (Except.ok.inj h)]

/-- A label is not empty if the id is not. -/
theorem ne_empty_of_givenLabel {id label : String} {entries : Value.Entries} (hid : id ≠ "")
    (h : givenLabel id entries = .ok label) : label ≠ "" := by
  unfold givenLabel at h
  cases hgiven : givenText? (entries.get "label") with
  | some own =>
    rw [hgiven] at h
    rw [← Except.ok.inj h]
    exact ne_empty_of_givenText? hgiven
  | none =>
    rw [hgiven] at h
    exact ne_empty_of_derivedLabel hid h

/-- A definition gives a well-formed preset if neither the id nor the default group is empty. -/
theorem isWellFormed_of_presetOfEntries {titles : Keyed String} {defaultGroup id : String}
    {entries : Value.Entries} {preset : Preset} (hdefault : defaultGroup ≠ "") (hid : id ≠ "")
    (h : presetOfEntries titles (.str defaultGroup) id entries = .ok preset) :
    preset.IsWellFormed id := by
  obtain ⟨hgroup, hlabel, hsame, hproperties⟩ := presetOfEntries_cases h
  exact ⟨hsame, ne_empty_of_givenLabel hid hlabel, ne_empty_of_givenGroup hdefault hgroup,
    hproperties ▸ isCanonical_canonicalBagOfValue _⟩

/-- The definition that an item gives to a preset, with the preset's id: the id is safe and the
definition is a map. -/
def presetItem? : Scalar × Value → Option (String × Value.Entries)
  | (key, .map entries) => if isSafeId key.display then some (key.display, entries) else none
  | _ => none

/-- The definitions of presets among items, in order. -/
def presetItems (items : Value.Entries) : List (String × Value.Entries) :=
  items.filterMap presetItem?

/-- An item defines a preset exactly if its key is a safe id and it has a map. -/
theorem presetItem?_eq_some_iff {key : Scalar} {value : Value} {id : String}
    {definition : Value.Entries} :
    presetItem? (key, value) = some (id, definition) ↔
      isSafeId id = true ∧ id = key.display ∧ value = .map definition := by
  cases value with
  | map entries =>
    simp only [presetItem?, Option.ite_none_right_eq_some, Option.some.injEq, Prod.mk.injEq,
      Value.map.injEq]
    constructor
    · rintro ⟨hsafe, rfl, rfl⟩
      exact ⟨hsafe, rfl, rfl⟩
    · rintro ⟨hsafe, rfl, rfl⟩
      exact ⟨hsafe, rfl, rfl⟩
  | _ => simp [presetItem?]

/-- Only a safe id is given a definition. -/
theorem isSafeId_of_mem_presetItems {items : Value.Entries} {id : String}
    {definition : Value.Entries} (h : (id, definition) ∈ presetItems items) :
    isSafeId id = true := by
  obtain ⟨⟨key, value⟩, -, hitem⟩ := List.mem_filterMap.mp h
  exact (presetItem?_eq_some_iff.mp hitem).1

/-- A safe id is not empty. -/
theorem ne_empty_of_isSafeId {id : String} (h : isSafeId id = true) : id ≠ "" := by
  rintro rfl
  revert h
  decide

/-- A preset is read of an item exactly if it defines one. -/
theorem outcome_readPreset (titles : Keyed String) (defaultGroup : Value) (key : Scalar)
    (value : Value) :
    (readPreset titles defaultGroup key.display value).outcome =
      match presetItem? (key, value) with
      | none => .ok none
      | some (id, definition) => (presetOfEntries titles defaultGroup id definition).map some := by
  by_cases hsafe : isSafeId key.display = true
  · cases value with
    | map definition => simp [readPreset, presetItem?, hsafe]
    | scalar s => simp [readPreset, presetItem?, hsafe, Noted.outcome_bind, ok_bind]
    | list items => simp [readPreset, presetItem?, hsafe, Noted.outcome_bind, ok_bind]
  · cases value <;> simp [readPreset, presetItem?, hsafe, Noted.outcome_bind, ok_bind]

/-- A preset is read exactly of the items that define one. -/
theorem readPreset_cases {titles : Keyed String} {defaultGroup : Value} {key : Scalar}
    {definition : Value} {preset? : Option Preset}
    (h : (readPreset titles defaultGroup key.display definition).outcome = .ok preset?) :
    (presetItem? (key, definition) = none ∧ preset? = none) ∨
      ∃ entries preset, presetItem? (key, definition) = some (key.display, entries) ∧
        preset? = some preset ∧
        presetOfEntries titles defaultGroup key.display entries = .ok preset := by
  rw [outcome_readPreset] at h
  cases hitem : presetItem? (key, definition) with
  | none =>
    rw [hitem] at h
    exact Or.inl ⟨rfl, (Except.ok.inj h).symm⟩
  | some item =>
    rw [hitem] at h
    obtain ⟨id, entries⟩ := item
    obtain ⟨preset, hpreset, rfl⟩ := map_eq_ok_iff.mp h
    obtain ⟨-, rfl, -⟩ := presetItem?_eq_some_iff.mp hitem
    exact Or.inr ⟨entries, preset, rfl, rfl, hpreset⟩

/-- A preset read from its definition. -/
def ReadFrom (titles : Keyed String) (defaultGroup : Value) (item : String × Value.Entries)
    (read : String × Preset) : Prop :=
  read.1 = item.1 ∧ presetOfEntries titles defaultGroup item.1 item.2 = .ok read.2

/-- Presets read from definitions stand under the ids of these. -/
theorem map_fst_of_readFrom {titles : Keyed String} {defaultGroup : Value}
    {items : List (String × Value.Entries)} {read : List (String × Preset)}
    (h : List.Forall₂ (ReadFrom titles defaultGroup) items read) :
    read.map (·.1) = items.map (·.1) := by
  rw [← List.forall₂_eq_eq_eq, List.forall₂_map_left_iff, List.forall₂_map_right_iff]
  exact h.flip.imp fun _ _ hread => hread.1

/-- Presets are read one after the other from their definitions, and put under their ids. -/
theorem exists_of_readPresets {titles : Keyed String} {defaultGroup : Value}
    {items : Value.Entries} {before after : Keyed Preset}
    (h : (readPresets titles defaultGroup before items).outcome = .ok after) :
    ∃ read, List.Forall₂ (ReadFrom titles defaultGroup) (presetItems items) read ∧
      after = read.foldl (fun presets (id, preset) => presets.put id preset) before := by
  induction items generalizing before with
  | nil => exact ⟨[], .nil, (Except.ok.inj h).symm⟩
  | cons item rest ih =>
    obtain ⟨key, definition⟩ := item
    unfold readPresets at h
    obtain ⟨id, hid, h⟩ := Noted.outcome_bind_eq_ok_iff.mp h
    obtain rfl := eq_of_scalar_written hid
    obtain ⟨preset?, hpreset, hrest⟩ := Noted.outcome_bind_eq_ok_iff.mp h
    rcases readPreset_cases hpreset with ⟨hitem, rfl⟩ | ⟨entries, preset, hitem, rfl, hread⟩
    · obtain ⟨read, hforall, rfl⟩ := ih hrest
      refine ⟨read, ?_, rfl⟩
      rwa [presetItems, List.filterMap_cons_none hitem]
    · obtain ⟨read, hforall, rfl⟩ := ih hrest
      refine ⟨(key.display, preset) :: read, ?_, ?_⟩
      · rw [presetItems, List.filterMap_cons_some hitem]
        exact .cons ⟨rfl, hread⟩ hforall
      · rw [List.foldl_cons, (presetOfEntries_cases hread).2.2.1]

end StyleTokens
