import StyleTokens.Proofs.Preset.Reading
import StyleTokens.Proofs.Value.Entries

/-!
# What loading presets gives

Loading finds the presets where keys lead through the maps of a document. Then the registry holds a
well-formed preset for each id that its items define, and otherwise it is empty and says why.
-/

namespace StyleTokens

/-- Keys lead from a value through maps to another. -/
inductive LeadsTo : Value → List String → Value → Prop where
  /-- No key leads to the value itself. -/
  | here (value : Value) : LeadsTo value [] value
  /-- A key leads into a map to the value there, and the others lead on. -/
  | into {entries : Value.Entries} {key : String} {inner : Value} {rest : List String}
    {value : Value} (hkey : entries.get? key = some inner) (hrest : LeadsTo inner rest value) :
    LeadsTo (.map entries) (key :: rest) value

/-- A value is where keys lead if there is nothing else where they could lead. -/
theorem leadsTo_cons_iff {document : Value} {key : String} {rest : List String} {value : Value} :
    LeadsTo document (key :: rest) value ↔
      ∃ (entries : Value.Entries) (inner : Value), document = .map entries ∧
        entries.get? key = some inner ∧ LeadsTo inner rest value := by
  constructor
  · rintro (_ | ⟨hkey, hrest⟩)
    exact ⟨_, _, rfl, hkey, hrest⟩
  · rintro ⟨entries, inner, rfl, hkey, hrest⟩
    exact .into hkey hrest

/-- The container is the map that keys lead to. -/
theorem exists_findContainer (document : Value) (path : List String) :
    ∃ container?, findContainer document (path.map .str) = .ok container? ∧
      ∀ container, container? = some container ↔ LeadsTo document path (.map container) := by
  induction path generalizing document with
  | nil =>
    refine ⟨document.entries?, rfl, fun container => ?_⟩
    constructor
    · intro h
      cases document with
      | scalar s => cases h
      | list items => cases h
      | map entries =>
        cases h
        exact .here _
    · rintro ⟨⟩
      rfl
  | cons key rest ih =>
    cases document with
    | scalar s =>
      exact ⟨none, rfl, fun container => by simp [leadsTo_cons_iff]⟩
    | list items =>
      exact ⟨none, rfl, fun container => by simp [leadsTo_cons_iff]⟩
    | map entries =>
      cases hkey : Value.Entries.find? entries (.str key) with
      | none =>
        refine ⟨none, ?_, fun container => ?_⟩
        · rw [List.map_cons, findContainer]
          simp only [hkey]
        · simp [leadsTo_cons_iff, Value.Entries.get?, hkey]
      | some inner =>
        obtain ⟨container?, hfound, hleads⟩ := ih inner
        refine ⟨container?, ?_, fun container => ?_⟩
        · rw [List.map_cons, findContainer]
          simp only [hkey, hfound]
        · simp [leadsTo_cons_iff, Value.Entries.get?, hkey, hleads]

/-- Keys lead to a container of presets with the given items. -/
def LeadsToItems (document : Value) (path : List String) (container items : Value.Entries) : Prop :=
  LeadsTo document path (.map container) ∧ container.get? "items" = some (.map items)

/-- The container of presets is the map with items that keys lead to. -/
theorem exists_presetContainer? (document : Value) (path : List String) :
    ∃ container?, presetContainer? document (path.map .str) = .ok container? ∧
      ∀ container, container? = some container ↔
        ∃ items, LeadsToItems document path container items := by
  obtain ⟨container?, hfound, hleads⟩ := exists_findContainer document path
  refine ⟨_, by rw [presetContainer?, hfound]; rfl, fun container => ?_⟩
  have hitems : (container.get "items").entries?.isSome = true ↔
      ∃ items, container.get? "items" = some (.map items) := by
    rw [Value.Entries.get]
    cases hvalue : container.get? "items" with
    | none => simp [Value.entries?]
    | some value => cases value <;> simp [Value.entries?]
  rw [Option.filter_eq_some_iff, hleads, hitems]
  exact exists_and_left.symm

/-- A preset among those that were read has its definition at the same place. -/
theorem exists_of_readFrom {titles : Keyed String} {defaultGroup : Value}
    {items : List (String × Value.Entries)} {before after : List (String × Preset)}
    {read : String × Preset}
    (h : List.Forall₂ (ReadFrom titles defaultGroup) items (before ++ read :: after)) :
    ∃ before' item after', items = before' ++ item :: after' ∧
      ReadFrom titles defaultGroup item read ∧
      List.Forall₂ (ReadFrom titles defaultGroup) after' after := by
  induction before generalizing items with
  | nil =>
    obtain ⟨item, after', hread, hafter, rfl⟩ := List.forall₂_cons_right_iff.mp h
    exact ⟨[], item, after', rfl, hread, hafter⟩
  | cons first before ih =>
    obtain ⟨item, rest, -, hrest, rfl⟩ := List.forall₂_cons_right_iff.mp h
    obtain ⟨before', item', after', rfl, hread, hafter⟩ := ih hrest
    exact ⟨item :: before', item', after', rfl, hread, hafter⟩

/-- A document without a container of presets gives an empty registry that says why; otherwise the
registry holds the presets that are read from the definitions in the container. -/
theorem ofDocument_cases {document : Value} {path : List String} {defaultGroup : Value}
    {place : Option String} {registry : Registry}
    (h : (Registry.ofDocument document (path.map .str) defaultGroup place).outcome =
      .ok registry) :
    ((¬∃ container items, LeadsToItems document path container items) ∧
        ∃ message, registry = .empty .noContainer (some message) place) ∨
      ∃ container items read, LeadsToItems document path container items ∧
        List.Forall₂ (ReadFrom (titlesOfValue (container.get "groups")) defaultGroup)
          (presetItems items) read ∧
        registry =
          ⟨Keyed.ofList read, titlesOfValue (container.get "groups"), .ok, none, place⟩ := by
  obtain ⟨container?, hfound, hleads⟩ := exists_presetContainer? document path
  unfold Registry.ofDocument at h
  rw [Noted.outcome_bind, Noted.outcome_quiet, hfound, ok_bind] at h
  cases container? with
  | none =>
    obtain ⟨message, -, h⟩ := Noted.outcome_bind_eq_ok_iff.mp h
    obtain ⟨-, -, h⟩ := Noted.outcome_bind_eq_ok_iff.mp h
    refine Or.inl ⟨?_, message, (Except.ok.inj h).symm⟩
    rintro ⟨container, hitems⟩
    cases (hleads container).mpr hitems
  | some container =>
    obtain ⟨items, hitems⟩ := (hleads container).mp rfl
    obtain ⟨⟨presets, titles⟩, hread, h⟩ := Noted.outcome_bind_eq_ok_iff.mp h
    obtain ⟨-, -, h⟩ := Noted.outcome_bind_eq_ok_iff.mp h
    have hmap : container.get "items" = .map items := by rw [Value.Entries.get, hitems.2]; rfl
    unfold readContainer at hread
    rw [hmap] at hread
    obtain ⟨titles', htitles, hread⟩ := Noted.outcome_bind_eq_ok_iff.mp hread
    obtain rfl := eq_of_readTitles htitles
    obtain ⟨presets', hpresets, heq⟩ := Noted.outcome_bind_eq_ok_iff.mp hread
    cases heq
    obtain ⟨read, hforall, rfl⟩ := exists_of_readPresets hpresets
    exact Or.inr ⟨container, items, read, hitems, hforall, (Except.ok.inj h).symm⟩

/-- A registry with the presets that the items of a container define. -/
structure Registry.HoldsItems (registry : Registry) (defaultGroup : String)
    (container items : Value.Entries) : Prop where
  /-- Each id stands once, where it first comes up. -/
  names : registry.presets.names = ((presetItems items).map (·.1)).eraseDups
  /-- Each preset is well-formed. -/
  wellFormed : ∀ id preset, (id, preset) ∈ registry.presets → preset.IsWellFormed id
  /-- Each preset comes from the last definition under its id. -/
  last : ∀ id preset, (id, preset) ∈ registry.presets →
    ∃ before definition after, presetItems items = before ++ (id, definition) :: after ∧
      id ∉ after.map (·.1) ∧
      presetOfEntries (titlesOfValue (container.get "groups")) (.str defaultGroup) id definition =
        .ok preset

/-- A preset that was read comes from the last definition under its id. -/
theorem exists_definition_of_readFrom {titles : Keyed String} {defaultGroup : Value}
    {items : List (String × Value.Entries)} {read : List (String × Preset)}
    (hread : List.Forall₂ (ReadFrom titles defaultGroup) items read) {id : String} {preset : Preset}
    (hmem : (id, preset) ∈ Keyed.ofList read) :
    ∃ before definition after, items = before ++ (id, definition) :: after ∧
      id ∉ after.map (·.1) ∧ presetOfEntries titles defaultGroup id definition = .ok preset := by
  obtain ⟨before, after, rfl, hid⟩ := Keyed.mem_ofList_iff.mp hmem
  obtain ⟨before', ⟨_, definition⟩, after', hitems, ⟨rfl, hpreset⟩, hafter⟩ :=
    exists_of_readFrom hread
  exact ⟨before', definition, after', hitems, map_fst_of_readFrom hafter ▸ hid, hpreset⟩

/-- Presets that were read from the items of a container are what these define. -/
theorem holdsItems_of_readFrom {registry : Registry} {defaultGroup : String}
    {container items : Value.Entries} {read : List (String × Preset)} (hgroup : defaultGroup ≠ "")
    (hread : List.Forall₂ (ReadFrom (titlesOfValue (container.get "groups")) (.str defaultGroup))
      (presetItems items) read)
    (hpresets : registry.presets = Keyed.ofList read) :
    registry.HoldsItems defaultGroup container items := by
  have hlast : ∀ id preset, (id, preset) ∈ registry.presets →
      ∃ before definition after, presetItems items = before ++ (id, definition) :: after ∧
        id ∉ after.map (·.1) ∧
        presetOfEntries (titlesOfValue (container.get "groups")) (.str defaultGroup) id
          definition = .ok preset := by
    intro id preset hmem
    exact exists_definition_of_readFrom hread (hpresets ▸ hmem)
  refine ⟨?_, fun id preset hmem => ?_, hlast⟩
  · rw [hpresets, Keyed.names_ofList, map_fst_of_readFrom hread]
  · obtain ⟨before, definition, after, hitems, -, hpreset⟩ := hlast id preset hmem
    have hdefinition : (id, definition) ∈ presetItems items :=
      hitems ▸ List.mem_append_right _ List.mem_cons_self
    have hid := ne_empty_of_isSafeId (isSafeId_of_mem_presetItems hdefinition)
    exact isWellFormed_of_presetOfEntries hgroup hid hpreset

/-- Keys lead to one container at most. -/
theorem LeadsToItems.unique {document : Value} {path : List String}
    {container items container' items' : Value.Entries}
    (h : LeadsToItems document path container items)
    (h' : LeadsToItems document path container' items') :
    container = container' ∧ items = items' := by
  obtain ⟨container?, -, hleads⟩ := exists_presetContainer? document path
  have hsome := (hleads container).mpr ⟨items, h⟩
  have hsome' := (hleads container').mpr ⟨items', h'⟩
  obtain rfl : container = container' := Option.some.inj (hsome.symm.trans hsome')
  exact ⟨rfl, by simpa using h.2.symm.trans h'.2⟩

/-- No key leads from nothing to presets. -/
theorem not_leadsToItems_null (path : List String) (container items : Value.Entries) :
    ¬LeadsToItems .null path container items := by
  rintro ⟨hleads, -⟩
  cases hleads

/-- Only nothing stands for no source. -/
theorem eq_null_of_ofValue {document : Value} (h : PresetSource.ofValue document = .ok .none) :
    document = .null := by
  unfold PresetSource.ofValue at h
  split at h
  · rfl
  all_goals cases h

/-- A source that is at hand is the map that stands for it. -/
theorem eq_map_of_ofValue {document : Value} {entries : Value.Entries}
    (h : PresetSource.ofValue document = .ok (.document entries)) : document = .map entries := by
  unfold PresetSource.ofValue at h
  split at h
  case h_2 =>
    cases h
    rfl
  all_goals cases h

/-- A registry that was loaded from a document or from nothing is well-formed. All went well
exactly if there is a document and the keys lead through its maps to a container with a map of
items, and then the registry holds what these items define. Otherwise it is empty, and says why. -/
theorem loaded_isWellFormed {document : Value} {source : PresetSource} {path : List String}
    {defaultGroup : String} {reading : Noted RegistryNote Registry} {registry : Registry}
    (hgroup : defaultGroup ≠ "") (hsource : PresetSource.ofValue document = .ok source)
    (hload : Registry.load source (path.map .str) (.str defaultGroup) = .done reading)
    (hreturns : reading.outcome = .ok registry) :
    (registry.status = .ok ↔
      document ≠ .null ∧ ∃ container items, LeadsToItems document path container items) ∧
    (registry.status ≠ .ok → registry.presets = [] ∧ ∃ message, registry.problem = some message) ∧
    ∀ container items, LeadsToItems document path container items →
      registry.HoldsItems defaultGroup container items := by
  cases source with
  | none =>
    obtain rfl := eq_null_of_ofValue hsource
    cases hload
    cases hreturns
    refine ⟨?_, fun _ => ⟨rfl, _, rfl⟩, fun container items hitems => ?_⟩
    · simp [Registry.empty]
    · exact absurd hitems (not_leadsToItems_null path container items)
  | document entries =>
    obtain rfl := eq_map_of_ofValue hsource
    cases hload
    rcases ofDocument_cases hreturns with ⟨hnone, message, rfl⟩ |
      ⟨container, items, read, hitems, hread, rfl⟩
    · refine ⟨?_, fun _ => ⟨rfl, _, rfl⟩, fun container items hitems => ?_⟩
      · simp [Registry.empty, hnone]
      · exact absurd ⟨container, items, hitems⟩ hnone
    · refine ⟨?_, fun hstatus => absurd rfl hstatus, fun container' items' hitems' => ?_⟩
      · simp only [true_iff]
        exact ⟨nofun, container, items, hitems⟩
      · obtain ⟨rfl, rfl⟩ := hitems.unique hitems'
        exact holdsItems_of_readFrom hgroup hread rfl
  | file file => cases hload

/-- A document with two keys that are the same id, and items that are no presets. -/
def sevensDocument : Value.Entries :=
  [(.str "presets", .map [(.str "items", .map [
    (.num (.int 7), .map [(.str "label", .str "first")]),
    (.str "A", .map []),
    (.str "b", .str "red"),
    (.str "c", .map []),
    (.str "7", .map [(.str "properties", .map [
      (.str "fontSize", .str "1px"),
      (.str "font-size", .str "2px")])])])])]

/-- The registry of that document. -/
def sevensRegistry : Registry :=
  ⟨[("7", ⟨"7", "7", "", "custom", none, [("font-size", .str "2px")]⟩),
    ("c", ⟨"c", "C", "", "custom", none, []⟩)], [], .ok, none, none⟩

theorem loaded_isWellFormed_sevens :
    (sevensRegistry.status = .ok ↔
      Value.map sevensDocument ≠ .null ∧
        ∃ container items, LeadsToItems (.map sevensDocument) ["presets"] container items) ∧
    (sevensRegistry.status ≠ .ok →
      sevensRegistry.presets = [] ∧ ∃ message, sevensRegistry.problem = some message) ∧
    ∀ container items, LeadsToItems (.map sevensDocument) ["presets"] container items →
      sevensRegistry.HoldsItems "custom" container items :=
  @loaded_isWellFormed (.map sevensDocument) (.document sevensDocument) ["presets"] "custom" _
    sevensRegistry (by decide) rfl rfl rfl

end StyleTokens
