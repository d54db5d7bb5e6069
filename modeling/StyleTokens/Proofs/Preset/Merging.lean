import StyleTokens.Proofs.Endless
import StyleTokens.Proofs.Preset.Loading

/-!
# Names that become one property

A stylesheet writes each property under its canonical name. So it does not matter whether names were
made canonical before, except for names that become one: their property is written once, where the
first of them stands and with the value of the last. Without such names a preset has the same rule
in a registry as it has in its document.
-/

namespace StyleTokens

/-! ### Bags -/

namespace PropertyBag

/-- No two names of a bag become one property. -/
def HasNoCollision (bag : PropertyBag) : Prop := (bag.names.map canonicalProperty).Nodup

instance (bag : PropertyBag) : Decidable bag.HasNoCollision :=
  inferInstanceAs (Decidable (List.Nodup _))

/-- Every value that stands for a declaration can be shown. -/
def IsWritable (bag : PropertyBag) : Prop :=
  ∀ entry ∈ bag, ∀ property, stylesheetProperty? entry.1 = some property →
    ∃ text?, declarationValue property entry.2 = .ok text?

/-- A bag with each canonical name once: where a name first becomes it, and with the value that
stands under the last such name. -/
structure IsMerged (bag merged : PropertyBag) : Prop where
  /-- Canonical names stand where they first come up. -/
  first : merged.names = (bag.names.map canonicalProperty).eraseDups
  /-- Each of them has the last value. -/
  last : ∀ name value, (name, value) ∈ merged →
    ∃ before written after, bag = before ++ (written, value) :: after ∧
      canonicalProperty written = name ∧ name ∉ (Keyed.names after).map canonicalProperty

end PropertyBag

/-- A bag with its canonical names, those that come up more than once included. -/
theorem map_fst_canonical (bag : PropertyBag) :
    (bag.map fun (name, value) => (canonicalProperty name, value)).map (·.1) =
      bag.names.map canonicalProperty := by
  rw [Keyed.names, List.map_map, List.map_map]
  rfl

theorem names_canonicalBag (bag : PropertyBag) :
    (canonicalBag bag).names = (bag.names.map canonicalProperty).eraseDups := by
  rw [canonicalBag, Keyed.names_ofList, map_fst_canonical]

/-- What stands under a canonical name is what stands under the last name that becomes it. -/
theorem mem_canonicalBag_iff {bag : PropertyBag} {name : String} {value : Value} :
    (name, value) ∈ canonicalBag bag ↔
      ∃ before written after, bag = before ++ (written, value) :: after ∧
        canonicalProperty written = name ∧ name ∉ (Keyed.names after).map canonicalProperty := by
  rw [canonicalBag, Keyed.mem_ofList_iff]
  constructor
  · rintro ⟨before, after, hbag, hlast⟩
    obtain ⟨before', rest, rfl, -, hrest⟩ := List.map_eq_append_iff.mp hbag
    obtain ⟨⟨written, other⟩, after', rfl, hentry, rfl⟩ := List.map_eq_cons_iff.mp hrest
    obtain ⟨rfl, rfl⟩ := Prod.mk.inj hentry
    exact ⟨before', written, after', rfl, rfl, map_fst_canonical after' ▸ hlast⟩
  · rintro ⟨before, written, after, rfl, rfl, hlast⟩
    refine ⟨_, _, List.map_append, ?_⟩
    rwa [map_fst_canonical]

/-- A bag under canonical names is merged. -/
theorem isMerged_canonicalBag (bag : PropertyBag) : bag.IsMerged (canonicalBag bag) :=
  ⟨names_canonicalBag bag, fun _ _ => mem_canonicalBag_iff.mp⟩

/-- There is one way to merge a bag. -/
theorem PropertyBag.IsMerged.eq_canonicalBag {bag merged : PropertyBag} (h : bag.IsMerged merged) :
    merged = canonicalBag bag := by
  have hnames : merged.names = (canonicalBag bag).names :=
    h.first.trans (names_canonicalBag bag).symm
  refine Keyed.eq_of_names_eq hnames (hnames ▸ (isCanonical_canonicalBag bag).nodup) ?_
  exact fun ⟨name, value⟩ hentry => mem_canonicalBag_iff.mpr (h.last name value hentry)

/-- Without collisions, all that happens to a bag is that its names are made canonical. -/
theorem canonicalBag_of_hasNoCollision {bag : PropertyBag} (h : bag.HasNoCollision) :
    canonicalBag bag = bag.map fun (name, value) => (canonicalProperty name, value) := by
  refine Keyed.ofList_of_nodup ?_
  rwa [map_fst_canonical]

/-! ### Declarations -/

/-- A name and its canonical form stand for the same property. -/
theorem stylesheetProperty?_canonicalProperty (name : String) :
    stylesheetProperty? (canonicalProperty name) = stylesheetProperty? name := by
  unfold stylesheetProperty?
  rw [canonicalProperty_canonicalProperty]

theorem declaration?_canonicalProperty (name : String) (value : Value) :
    declaration? (canonicalProperty name) value = declaration? name value := by
  unfold declaration?
  rw [stylesheetProperty?_canonicalProperty]

/-- The property of a stylesheet is the canonical name. -/
theorem eq_of_stylesheetProperty? {name property : String}
    (h : stylesheetProperty? name = some property) : property = canonicalProperty name := by
  unfold stylesheetProperty? at h
  dsimp only at h
  split_ifs at h
  exact (Option.some.inj h).symm

theorem property_of_declaration? {name : String} {value : Value} {line : Declaration}
    (h : declaration? name value = .ok (some line)) : line.property = canonicalProperty name := by
  unfold declaration? at h
  cases hproperty : stylesheetProperty? name with
  | none => simp [hproperty] at h
  | some property =>
    simp only [hproperty, map_eq_ok_iff, Option.map_eq_some_iff] at h
    obtain ⟨text?, -, text, -, rfl⟩ := h
    exact eq_of_stylesheetProperty? hproperty

/-- The declarations of a bag are of its properties, in its order. -/
theorem sublist_of_declarations {bag : PropertyBag} {lines : List Declaration}
    (h : declarations bag = .ok lines) :
    (lines.map (·.property)).Sublist (bag.names.map canonicalProperty) := by
  obtain ⟨found, hfound, rfl⟩ := map_eq_ok_iff.mp h
  rw [mapM_eq_ok_iff] at hfound
  clear h
  induction hfound with
  | nil => exact .refl []
  | @cons entry line? bag found hentry hrest ih =>
    rw [Keyed.names, List.map_cons, List.map_cons]
    cases line? with
    | none => exact .cons _ ih
    | some line =>
      change (line.property :: (found.filterMap id).map (·.property)).Sublist _
      rw [property_of_declaration? hentry]
      exact ih.cons_cons _

/-- The declarations of a bag can be written exactly if its values can. -/
theorem exists_declarations_iff {bag : PropertyBag} :
    (∃ lines, declarations bag = .ok lines) ↔ bag.IsWritable := by
  rw [exists_ok_iff, declarations_fault_iff]
  simp only [PropertyBag.IsWritable, exists_ok_iff, declarationValue_fault_iff, not_exists, not_and]

/-- A merged bag can be written if the bag can. -/
theorem PropertyBag.IsWritable.canonicalBag {bag : PropertyBag} (h : bag.IsWritable) :
    (canonicalBag bag).IsWritable := by
  rintro ⟨name, value⟩ hentry property hproperty
  obtain ⟨before, written, after, rfl, rfl, -⟩ := mem_canonicalBag_iff.mp hentry
  rw [stylesheetProperty?_canonicalProperty] at hproperty
  exact h (written, value) (by simp) property hproperty

/-- A merged bag has no declaration twice. -/
theorem nodup_of_declarations_canonicalBag {bag : PropertyBag} {lines : List Declaration}
    (h : declarations (canonicalBag bag) = .ok lines) : (lines.map (·.property)).Nodup := by
  have hcanonical := isCanonical_canonicalBag bag
  refine (sublist_of_declarations h).nodup ?_
  rw [List.map_congr_left hcanonical.fixed, List.map_id']
  exact hcanonical.nodup

/-- Without collisions, a bag has the declarations that it has under canonical names. -/
theorem declarations_canonicalBag {bag : PropertyBag} (h : bag.HasNoCollision) :
    declarations (canonicalBag bag) = declarations bag := by
  rw [canonicalBag_of_hasNoCollision h, declarations, declarations]
  congr 1
  refine mapM_eq_of_forall₂ (List.forall₂_map_left_iff.mpr (List.forall₂_same.mpr ?_))
  exact fun entry _ => declaration?_canonicalProperty entry.1 entry.2

/-! ### Rules -/

/-- The bag that unchecked data holds, under the names that it gives; what is no map holds none. -/
def bagOfValue : Value → PropertyBag
  | .map entries => bagOfEntries entries
  | _ => []

theorem canonicalBagOfValue_eq (value : Value) :
    canonicalBagOfValue value = canonicalBag (bagOfValue value) := by
  cases value <;> rfl

/-- The label in the comment that is made from a definition: its own, or else the id. -/
def shownLabel (id : String) (definition : Value.Entries) : String :=
  (givenText? (definition.get "label")).getD id

theorem commentOfValue_eq (annotate : Bool) (id : String) (definition : Value.Entries) :
    commentOfValue annotate (.str id) (definition.get "label") =
      .ok (if annotate then labelComment (shownLabel id definition) else "") := by
  cases annotate with
  | false => rfl
  | true =>
    unfold commentOfValue labelOfValue shownLabel givenText?
    cases htext : (definition.get "label").text? with
    | none => rfl
    | some text =>
      by_cases hempty : text.isEmpty = true
      · simp [hempty, Option.filter, Value.text?]
      · simp [hempty, htext, Option.filter]

/-- The rule of a definition is that of its properties. -/
theorem ruleOfValue_eq (id : String) (definition : Value.Entries) (annotate : Bool) :
    ruleOfValue (.str id) (.map definition) annotate =
      presetRule id (bagOfValue (definition.get "properties"))
        (if annotate then labelComment (shownLabel id definition) else "") := by
  rw [ruleOfValue, presetRule, commentOfValue_eq]
  cases definition.get "properties" with
  | scalar s => rfl
  | list items => rfl
  | map properties =>
    dsimp only [bagOfValue]
    cases declarations (bagOfEntries properties) with
    | error fault => rfl
    | ok lines => cases lines <;> rfl

/-- A rule with a comment in front of it; where there is no rule, there is no comment. -/
def behindComment (comment rule : String) : String := if rule.isEmpty then "" else comment ++ rule

theorem presetRule_eq_map (id : String) (bag : PropertyBag) (comment : String) :
    presetRule id bag comment = (presetRule id bag "").map (behindComment comment) := by
  have hblock : ∀ lines, (ruleBlock (presetSelector id) lines).isEmpty = false := by
    intro lines
    simp [ruleBlock]
  unfold presetRule behindComment
  cases declarations bag with
  | error fault => rfl
  | ok lines => cases lines <;> simp [Except.map, hblock]

/-- A preset has the rule of its definition. -/
structure Preset.SharesRule (preset : Preset) (id : String) (definition : Value.Entries) :
    Prop where
  /-- Without comments the rules are the same. -/
  plain : preset.rule id false = ruleOfValue (.str id) (.map definition) false
  /-- With a comment, the preset's rule stands behind its label. -/
  annotated : preset.rule id true =
    (preset.rule id false).map (behindComment (labelComment preset.label))
  /-- With a comment, the definition's rule stands behind the label that it gives, or the id. -/
  annotatedDirectly : ruleOfValue (.str id) (.map definition) true =
    (ruleOfValue (.str id) (.map definition) false).map
      (behindComment (labelComment (shownLabel id definition)))
  /-- A label that the definition gives is the preset's. -/
  label : ∀ label, givenText? (definition.get "label") = some label → preset.label = label

/-- A preset has the rule of its definition, if no two names become one property. -/
theorem sharesRule_of_presetOfEntries {titles : Keyed String} {defaultGroup : Value} {id : String}
    {definition : Value.Entries} {preset : Preset} (hid : id ≠ "")
    (hread : presetOfEntries titles defaultGroup id definition = .ok preset)
    (hcollision : (bagOfValue (definition.get "properties")).HasNoCollision) :
    preset.SharesRule id definition := by
  obtain ⟨-, hlabel, -, hproperties⟩ := presetOfEntries_cases hread
  have hsame : declarations preset.properties =
      declarations (bagOfValue (definition.get "properties")) := by
    rw [hproperties, canonicalBagOfValue_eq, declarations_canonicalBag hcollision]
  constructor
  case plain =>
    rw [ruleOfValue_eq, Preset.rule, presetRule, presetRule, hsame]
    simp only [Bool.false_eq_true, if_false]
  case annotated =>
    have hempty : preset.label.isEmpty = false := by simpa using ne_empty_of_givenLabel hid hlabel
    rw [Preset.rule, Preset.rule, presetRule_eq_map, hempty]
    simp only [Bool.false_eq_true, if_false, if_true]
  case annotatedDirectly =>
    rw [ruleOfValue_eq, ruleOfValue_eq, presetRule_eq_map]
    simp only [Bool.false_eq_true, if_false, if_true]
  case label =>
    intro label hgiven
    rw [givenLabel, hgiven] at hlabel
    exact (Except.ok.inj hlabel).symm

/-- The last definition that items give to an id. -/
def IsLastDefinition (items : Value.Entries) (id : String) (definition : Value.Entries) : Prop :=
  ∃ before after, presetItems items = before ++ (id, definition) :: after ∧ id ∉ after.map (·.1)

theorem IsLastDefinition.isSafeId {items definition : Value.Entries} {id : String}
    (h : IsLastDefinition items id definition) : isSafeId id = true := by
  obtain ⟨before, after, hsplit, -⟩ := h
  have hmem : (id, definition) ∈ presetItems items :=
    hsplit ▸ List.mem_append_right _ List.mem_cons_self
  exact isSafeId_of_mem_presetItems hmem

/-- A preset in a registry is read from the last definition under its id. -/
theorem exists_find?_of_isLastDefinition {document : Value} {path : List String}
    {defaultGroup : Value} {place : Option String} {registry : Registry}
    (h : (Registry.ofDocument document (path.map .str) defaultGroup place).outcome = .ok registry)
    {container items definition : Value.Entries} {id : String}
    (hitems : LeadsToItems document path container items)
    (hlast : IsLastDefinition items id definition) :
    ∃ preset, registry.presets.find? id = some preset ∧
      presetOfEntries (titlesOfValue (container.get "groups")) defaultGroup id definition =
        .ok preset := by
  rcases ofDocument_cases h with ⟨hnone, -⟩ | ⟨container', items', read, hitems', hread, rfl⟩
  · exact absurd ⟨container, items, hitems⟩ hnone
  · obtain ⟨rfl, rfl⟩ := hitems.unique hitems'
    have hfound := Keyed.find?_ofList_eq_some_iff.mpr hlast
    have hname : id ∈ (Keyed.ofList read).names := by
      obtain ⟨before, after, hsplit, -⟩ := hlast
      rw [Keyed.names_ofList, List.mem_eraseDups, map_fst_of_readFrom hread, hsplit]
      simp
    obtain ⟨⟨_, preset⟩, hmem, rfl⟩ := List.mem_map.mp hname
    obtain ⟨before, other, after, hsplit, hid, hpreset⟩ := exists_definition_of_readFrom hread hmem
    -- The preset is read from the last definition, and there is only one.
    have hother := Keyed.find?_ofList_eq_some_iff.mpr ⟨before, after, hsplit, hid⟩
    obtain rfl := Option.some.inj (hfound.symm.trans hother)
    exact ⟨preset, Keyed.find?_eq_some_of_mem (Keyed.nodup_names_ofList _) hmem, hpreset⟩

/-- Names are made canonical once and for all, and a bag whose names were made canonical has no
property twice: each stands where a name first becomes it, with the value of the last such name. If
no two names become one property, the bag has the declarations that it has anyway, and a preset has
the same rule in a registry as in the document that the registry was read from. -/
theorem canonical_agrees :
    (∀ name, canonicalProperty (canonicalProperty name) = canonicalProperty name) ∧
    (∀ bag : PropertyBag, bag.IsMerged (canonicalBag bag) ∧
      ∀ merged, bag.IsMerged merged → declarations (canonicalBag bag) = declarations merged) ∧
    (∀ bag : PropertyBag, bag.IsWritable →
      ∃ lines, declarations (canonicalBag bag) = .ok lines ∧ (lines.map (·.property)).Nodup) ∧
    (∀ bag : PropertyBag, bag.HasNoCollision → declarations (canonicalBag bag) = declarations bag) ∧
    ∀ (document : Value) (path : List String) (defaultGroup : Value) (place : Option String)
      (registry : Registry),
      (Registry.ofDocument document (path.map .str) defaultGroup place).outcome = .ok registry →
      ∀ container items id definition, LeadsToItems document path container items →
        IsLastDefinition items id definition →
        (bagOfValue (definition.get "properties")).HasNoCollision →
        ∃ preset, registry.presets.find? id = some preset ∧ preset.SharesRule id definition := by
  refine ⟨canonicalProperty_canonicalProperty, ?_, ?_, fun _ => declarations_canonicalBag, ?_⟩
  · intro bag
    refine ⟨isMerged_canonicalBag bag, fun merged hmerged => ?_⟩
    rw [hmerged.eq_canonicalBag]
  · intro bag hwritable
    obtain ⟨lines, hlines⟩ := exists_declarations_iff.mpr hwritable.canonicalBag
    exact ⟨lines, hlines, nodup_of_declarations_canonicalBag hlines⟩
  · intro document path defaultGroup place registry hregistry container items id definition hitems
      hlast hcollision
    obtain ⟨preset, hfound, hread⟩ := exists_find?_of_isLastDefinition hregistry hitems hlast
    have hid := ne_empty_of_isSafeId hlast.isSafeId
    exact ⟨preset, hfound, sharesRule_of_presetOfEntries hid hread hcollision⟩

/-- Two names that become one property, around another one. -/
def collidingBag : PropertyBag :=
  [("fontSize", .str "1px"), ("color", .str "red"), ("font-size", .str "2px")]

/-- The same properties, the second name left out. -/
def mergedBag : PropertyBag := [("font-size", .str "2px"), ("color", .str "red")]

/-- Properties of which one is not under its canonical name. -/
def leadProperties : Value :=
  .map [(.str "fontSize", .str "1px"), (.str "line-height", .str "auto")]

/-- A definition with these properties. -/
def leadDefinition : Value.Entries :=
  [(.str "label", .str "Lead"), (.str "properties", leadProperties)]

/-- Items of which only the second has a safe id. -/
def leadItems : Value.Entries := [(.str "Lead", .map []), (.str "lead", .map leadDefinition)]

/-- A document with these items. -/
def leadDocument : Value := .map [(.str "presets", .map [(.str "items", .map leadItems)])]

/-- One bag with a collision and one without, and a preset whose rule is that of its definition. -/
theorem canonical_agrees_lead :
    collidingBag.IsMerged mergedBag ∧
      declarations (canonicalBag collidingBag) = declarations mergedBag ∧
      collidingBag.IsWritable ∧
      (∃ lines, declarations (canonicalBag collidingBag) = .ok lines ∧
        (lines.map (·.property)).Nodup) ∧
      (bagOfValue leadProperties).HasNoCollision ∧
      declarations (canonicalBag (bagOfValue leadProperties)) =
        declarations (bagOfValue leadProperties) ∧
      ∃ registry preset,
        (Registry.ofDocument leadDocument (["presets"].map .str) (.str "theme") none).outcome =
          .ok registry ∧
        LeadsToItems leadDocument ["presets"] [(.str "items", .map leadItems)] leadItems ∧
        IsLastDefinition leadItems "lead" leadDefinition ∧
        registry.presets.find? "lead" = some preset ∧ preset.SharesRule "lead" leadDefinition := by
  obtain ⟨-, hmerged, hnodup, hsame, hrule⟩ := canonical_agrees
  have hwritable : collidingBag.IsWritable := exists_declarations_iff.mp ⟨_, rfl⟩
  have hcollision : (bagOfValue leadProperties).HasNoCollision := by decide
  have hitems : LeadsToItems leadDocument ["presets"] [(.str "items", .map leadItems)] leadItems :=
    ⟨.into rfl (.here _), rfl⟩
  have hlast : IsLastDefinition leadItems "lead" leadDefinition := ⟨[], [], rfl, by simp⟩
  obtain ⟨preset, hfound, hshares⟩ :=
    hrule leadDocument ["presets"] (.str "theme") none _ rfl _ _ _ _ hitems hlast hcollision
  exact ⟨isMerged_canonicalBag collidingBag,
    (hmerged collidingBag).2 mergedBag (isMerged_canonicalBag collidingBag), hwritable,
    hnodup collidingBag hwritable, hcollision, hsame _ hcollision, _, preset, rfl, hitems, hlast,
    hfound, hshares⟩

end StyleTokens
