import StyleTokens.Proofs.Dialogue
import StyleTokens.Proofs.Preset.Merging

/-!
# What grouping presets gives

A registry's presets are put into their groups one after the other. The first preset of a group
opens it and settles its title, and the others are added at its end; so the groups stand in the
order of their first presets, and each preset is in exactly one of them.
-/

namespace StyleTokens

/-! ### One group -/

/-- The ids of the presets of a group, in order. -/
def membersOf (presets : Keyed Preset) (group : String) : List String :=
  (presets.filter fun entry => entry.2.group = group).map (·.1)

/-- A preset that comes last is the last member of its group. -/
theorem membersOf_concat (presets : Keyed Preset) (id : String) (preset : Preset) (group : String) :
    membersOf (presets ++ [(id, preset)]) group =
      membersOf presets group ++ if preset.group = group then [id] else [] := by
  rw [membersOf, List.filter_append, List.map_append, ← membersOf]
  by_cases h : preset.group = group
  · simp [h]
  · simp [h]

/-- A preset is the first of its group. -/
def IsFirstOf (presets : Keyed Preset) (group : String) (id : String) (preset : Preset) : Prop :=
  ∃ before after, presets = before ++ (id, preset) :: after ∧ preset.group = group ∧
    ∀ earlier ∈ before, earlier.2.group ≠ group

theorem IsFirstOf.mem {presets : Keyed Preset} {group id : String} {preset : Preset}
    (h : IsFirstOf presets group id preset) : (id, preset) ∈ presets := by
  obtain ⟨before, after, rfl, -, -⟩ := h
  exact List.mem_append_right before List.mem_cons_self

theorem IsFirstOf.group_eq {presets : Keyed Preset} {group id : String} {preset : Preset}
    (h : IsFirstOf presets group id preset) : preset.group = group := by
  obtain ⟨-, -, -, hgroup, -⟩ := h
  exact hgroup

/-- The first preset of a group is still the first one when another comes last. -/
theorem IsFirstOf.concat {presets : Keyed Preset} {group id : String} {preset : Preset}
    (h : IsFirstOf presets group id preset) (last : String × Preset) :
    IsFirstOf (presets ++ [last]) group id preset := by
  obtain ⟨before, after, rfl, hgroup, hbefore⟩ := h
  exact ⟨before, after ++ [last], by simp, hgroup, hbefore⟩

/-- A group that holds its presets in order, under the title that the first of them settles. -/
structure Registry.Fills (registry : Registry) (presets : Keyed Preset) (group : PresetGroup) :
    Prop where
  /-- The members are the presets of the group, in order. -/
  members : group.members = membersOf presets group.id
  /-- The title is settled by the first of them. -/
  title : ∃ id preset, IsFirstOf presets group.id id preset ∧
    group.title = registry.groupTitle preset

section Fills

variable {registry : Registry} {presets : Keyed Preset} {group : PresetGroup}

/-- A preset that opens its group is all that is in it. -/
theorem fills_of_forall_ne {preset : Preset}
    (hnew : ∀ earlier ∈ presets, earlier.2.group ≠ preset.group) (id : String) :
    registry.Fills (presets ++ [(id, preset)])
      ⟨preset.group, registry.groupTitle preset, [id]⟩ := by
  refine ⟨?_, id, preset, ⟨presets, [], rfl, rfl, hnew⟩, rfl⟩
  have hnone : membersOf presets preset.group = [] := by
    rw [membersOf, List.map_eq_nil_iff, List.filter_eq_nil_iff]
    simpa using fun id' preset' hentry => hnew (id', preset') hentry
  rw [membersOf_concat, hnone, if_pos rfl, List.nil_append]

/-- A preset of another group changes nothing. -/
theorem Registry.Fills.concat_of_ne (h : registry.Fills presets group) {preset : Preset}
    (hother : preset.group ≠ group.id) (id : String) :
    registry.Fills (presets ++ [(id, preset)]) group := by
  obtain ⟨id', preset', hfirst, htitle⟩ := h.title
  refine ⟨?_, id', preset', hfirst.concat _, htitle⟩
  rw [membersOf_concat, if_neg hother, List.append_nil, h.members]

/-- A preset of the group is put behind the others. -/
theorem Registry.Fills.concat_of_eq (h : registry.Fills presets group) {preset : Preset}
    (hsame : preset.group = group.id) (id : String) :
    registry.Fills (presets ++ [(id, preset)])
      ⟨group.id, group.title, group.members ++ [id]⟩ := by
  obtain ⟨id', preset', hfirst, htitle⟩ := h.title
  refine ⟨?_, id', preset', hfirst.concat _, htitle⟩
  rw [membersOf_concat, if_pos hsame, h.members]

end Fills

/-! ### All groups -/

/-- Groups hold presets that were put into them one after the other. -/
structure Registry.Groups (registry : Registry) (presets : Keyed Preset)
    (groups : List PresetGroup) : Prop where
  /-- The groups are those of the presets, where they first come up. -/
  ids : groups.map (·.id) = (presets.map (·.2.group)).eraseDups
  /-- Each group holds its presets. -/
  fills : ∀ group ∈ groups, registry.Fills presets group
  /-- Each preset is in one group. -/
  partition : (groups.flatMap (·.members)).Perm presets.names

/-- A preset is put at the end of its group where that is open, and otherwise opens it behind the
others. -/
theorem addToGroup_cases (registry : Registry) (groups : List PresetGroup) (id : String)
    (preset : Preset) :
    (preset.group ∉ groups.map (·.id) ∧
      registry.addToGroup groups id preset =
        groups ++ [⟨preset.group, registry.groupTitle preset, [id]⟩]) ∨
    ∃ before group after, groups = before ++ group :: after ∧ preset.group = group.id ∧
      registry.addToGroup groups id preset =
        before ++ ⟨group.id, group.title, group.members ++ [id]⟩ :: after := by
  induction groups with
  | nil => exact .inl ⟨List.not_mem_nil, rfl⟩
  | cons first rest ih =>
    by_cases hfirst : first.id = preset.group
    · refine .inr ⟨[], first, rest, rfl, hfirst.symm, ?_⟩
      rw [Registry.addToGroup, if_pos hfirst, List.nil_append]
    · rw [Registry.addToGroup, if_neg hfirst]
      rcases ih with ⟨hnew, hadd⟩ | ⟨before, group, after, rfl, hgroup, hadd⟩
      · refine .inl ⟨?_, by rw [hadd, List.cons_append]⟩
        rw [List.map_cons, List.mem_cons, not_or]
        exact ⟨fun heq => hfirst heq.symm, hnew⟩
      · exact .inr ⟨first :: before, group, after, rfl, hgroup, by rw [hadd, List.cons_append]⟩

section Groups

variable {registry : Registry} {presets : Keyed Preset}

/-- A group is open exactly if it has presets. -/
theorem Registry.Groups.mem_map_id {groups : List PresetGroup}
    (h : registry.Groups presets groups) {group : String} :
    group ∈ groups.map (·.id) ↔ ∃ entry ∈ presets, entry.2.group = group := by
  rw [h.ids, List.mem_eraseDups, List.mem_map]

/-- No group is open twice. -/
theorem Registry.Groups.id_ne {before after : List PresetGroup} {group : PresetGroup}
    (h : registry.Groups presets (before ++ group :: after)) :
    ∀ other ∈ before ++ after, other.id ≠ group.id := by
  have hnodup : ((before ++ group :: after).map (·.id)).Nodup := h.ids ▸ nodup_eraseDups _
  rw [List.map_append, List.map_cons, List.perm_middle.nodup_iff, List.nodup_cons,
    ← List.map_append] at hnodup
  exact fun other hother heq => hnodup.1 (heq ▸ List.mem_map_of_mem hother)

/-- Groups hold a preset that is added to them, besides those that they held before. -/
theorem Registry.Groups.addToGroup {groups : List PresetGroup}
    (h : registry.Groups presets groups) (id : String) (preset : Preset) :
    registry.Groups (presets ++ [(id, preset)]) (registry.addToGroup groups id preset) := by
  have hids : (presets ++ [(id, preset)]).map (·.2.group) =
      presets.map (·.2.group) ++ [preset.group] := by
    rw [List.map_append, List.map_singleton]
  have hnames : Keyed.names (presets ++ [(id, preset)]) = presets.names ++ [id] := by
    rw [Keyed.names, List.map_append, List.map_singleton, ← Keyed.names]
  have hopen : preset.group ∈ presets.map (·.2.group) ↔ preset.group ∈ groups.map (·.id) := by
    rw [h.ids, List.mem_eraseDups]
  rcases addToGroup_cases registry groups id preset with
    ⟨hnew, hadd⟩ | ⟨before, group, after, rfl, hgroup, hadd⟩
  · -- The preset opens its group, which had no presets.
    rw [hadd]
    refine ⟨?_, fun other hmem => ?_, ?_⟩
    · rw [hids, eraseDups_concat, if_neg (hopen.not.mpr hnew), ← h.ids, List.map_append,
        List.map_singleton]
    · rcases List.mem_append.mp hmem with hmem | hmem
      · refine (h.fills other hmem).concat_of_ne (fun heq => hnew ?_) id
        exact heq ▸ List.mem_map_of_mem hmem
      · obtain rfl := List.mem_singleton.mp hmem
        refine fills_of_forall_ne (fun earlier hearlier heq => ?_) id
        exact hnew (h.mem_map_id.mpr ⟨earlier, hearlier, heq⟩)
    · rw [hnames, List.flatMap_append]
      exact h.partition.append_right [id]
  · -- The preset is put behind those of its group, and the other groups stay as they are.
    have hmemGroup : group ∈ before ++ group :: after :=
      List.mem_append_right _ List.mem_cons_self
    rw [hadd]
    refine ⟨?_, fun other hmem => ?_, ?_⟩
    · rw [hids, eraseDups_concat, if_pos (hopen.mpr (hgroup ▸ List.mem_map_of_mem hmemGroup)),
        ← h.ids, List.map_append, List.map_append, List.map_cons, List.map_cons]
    · rcases List.mem_cons.mp (List.perm_middle.mem_iff.mp hmem) with rfl | hmem
      · exact (h.fills group hmemGroup).concat_of_eq hgroup id
      · have hmemOther : other ∈ before ++ group :: after :=
          List.perm_middle.mem_iff.mpr (List.mem_cons_of_mem group hmem)
        exact (h.fills other hmemOther).concat_of_ne (hgroup ▸ (h.id_ne other hmem).symm) id
    · have hpartition := h.partition.append_right [id]
      rw [hnames]
      refine List.Perm.trans ?_ hpartition
      rw [List.flatMap_append, List.flatMap_append, List.flatMap_cons, List.flatMap_cons,
        List.append_assoc, List.append_assoc, List.append_assoc]
      exact (List.perm_append_comm.append_left _).append_left _

/-- Grouping puts all presets of a registry into their groups. -/
theorem groups_grouped (registry : Registry) :
    registry.Groups registry.presets registry.grouped := by
  unfold Registry.grouped
  -- The induction is on the presets that have been put into their groups.
  suffices h : ∀ presets : Keyed Preset, registry.Groups presets
      (presets.foldl (fun groups entry => registry.addToGroup groups entry.1 entry.2) []) from
    h registry.presets
  intro presets
  induction presets using List.reverseRecOn with
  | nil => exact ⟨rfl, fun _ hmem => absurd hmem List.not_mem_nil, .refl _⟩
  | append_singleton presets entry ih =>
    rw [List.foldl_append]
    exact ih.addToGroup entry.1 entry.2

end Groups

/-! ### Titles -/

/-- The last title that definitions of groups give to a group. -/
def GivesTitle (groups : Value) (group title : String) : Prop :=
  ∃ before key definition after, groups = .map (before ++ (key, .map definition) :: after) ∧
    key.display = group ∧ Value.Entries.get definition "title" = .str title ∧ title ≠ "" ∧
    ∀ later ∈ after, later.1.display = group → titleOf? later.2 = none

/-- The title of a group: the one that the definitions of groups give, or else the one that the
definition of the group's first preset gives, or else the group's id with a capital letter. -/
inductive IsTitleOf (groups : Value) (definition : Value.Entries) (group : String) :
    String → Prop where
  /-- The title is given with the groups. -/
  | given {title : String} (htitle : GivesTitle groups group title) :
    IsTitleOf groups definition group title
  /-- The title is given with the preset. -/
  | own {title : String} (hnone : ∀ other, ¬GivesTitle groups group other)
    (htitle : definition.get "group_title" = .str title) (hne : title ≠ "") :
    IsTitleOf groups definition group title
  /-- No title is given. -/
  | derived (hnone : ∀ other, ¬GivesTitle groups group other)
    (hown : ∀ title, definition.get "group_title" = .str title → title = "") :
    IsTitleOf groups definition group (Text.upperFirstString group)

/-- A text is given exactly if it is not empty. -/
theorem givenText?_eq_some_iff {value : Value} {text : String} :
    givenText? value = some text ↔ value = .str text ∧ text ≠ "" := by
  rw [givenText?, Option.filter_eq_some_iff, Value.text?_eq_some_iff]
  simp

/-- The title that a definition gives is a text that is not empty. -/
theorem titleOf?_eq_some_iff {definition : Value} {title : String} :
    titleOf? definition = some title ↔ ∃ entries, definition = .map entries ∧
      Value.Entries.get entries "title" = .str title ∧ title ≠ "" := by
  cases definition with
  | map entries => simp [titleOf?, givenText?_eq_some_iff]
  | _ => simp [titleOf?]

/-- The title that is given to a group is not empty. -/
theorem GivesTitle.ne_empty {groups : Value} {group title : String}
    (h : GivesTitle groups group title) : title ≠ "" := by
  obtain ⟨-, -, -, -, -, -, -, hne, -⟩ := h
  exact hne

/-- The title of a group is found exactly if it is given. -/
theorem find?_titlesOfValue_eq_some_iff {groups : Value} {group title : String} :
    (titlesOfValue groups).find? group = some title ↔ GivesTitle groups group title := by
  cases groups with
  | map entries =>
    unfold titlesOfValue
    rw [Keyed.find?_ofList_eq_some_iff]
    constructor
    · rintro ⟨titlesBefore, titlesAfter, htitles, hlast⟩
      obtain ⟨front, back, rfl, -, hback⟩ := List.filterMap_eq_append_iff.mp htitles
      obtain ⟨between, ⟨key, value⟩, after, rfl, -, hentry, rfl⟩ :=
        List.filterMap_eq_cons_iff.mp hback
      obtain ⟨title', htitle, hpair⟩ := Option.map_eq_some_iff.mp hentry
      obtain ⟨rfl, rfl⟩ := Prod.mk.inj hpair
      obtain ⟨definition, rfl, hgives, hne⟩ := titleOf?_eq_some_iff.mp htitle
      refine ⟨front ++ between, key, definition, after, by simp, rfl, hgives, hne, ?_⟩
      intro later hlater hkey
      rw [Option.eq_none_iff_forall_ne_some]
      intro other hother
      refine hlast (List.mem_map.mpr ⟨(later.1.display, other), ?_, hkey⟩)
      exact List.mem_filterMap.mpr ⟨later, hlater, by simp [hother]⟩
    · rintro ⟨before, key, definition, after, hentries, rfl, hgives, hne, hlast⟩
      obtain rfl := Value.map.inj hentries
      have htitle := titleOf?_eq_some_iff.mpr ⟨definition, rfl, hgives, hne⟩
      simp only [List.filterMap_append, List.filterMap_cons, htitle, Option.map_some]
      refine ⟨_, _, rfl, fun hmem => ?_⟩
      obtain ⟨entry, hentry, hname⟩ := List.mem_map.mp hmem
      obtain ⟨later, hlater, heq⟩ := List.mem_filterMap.mp hentry
      obtain ⟨other, hother, rfl⟩ := Option.map_eq_some_iff.mp heq
      rw [hlast later hlater hname] at hother
      cases hother
  | _ => simp [titlesOfValue, GivesTitle]

/-- The title that a preset brings for its group. -/
theorem groupTitle_of_presetOfEntries {titles : Keyed String} {defaultGroup : Value} {id : String}
    {definition : Value.Entries} {preset : Preset}
    (h : presetOfEntries titles defaultGroup id definition = .ok preset) :
    preset.groupTitle =
      (titles.find? preset.group).or (givenText? (definition.get "group_title")) := by
  rw [presetOfEntries_eq] at h
  obtain ⟨group?, -, h⟩ := bind_eq_ok_iff.mp h
  obtain ⟨label, -, h⟩ := bind_eq_ok_iff.mp h
  obtain ⟨properties, -, h⟩ := bind_eq_ok_iff.mp h
  cases group? with
  | none => cases h
  | some group =>
    cases h
    rfl

/-- The title of a group is settled by the definitions of groups and that of its first preset. -/
theorem isTitleOf_groupTitle {registry : Registry} {groups defaultGroup : Value} {id : String}
    {definition : Value.Entries} {preset : Preset} (htitles : registry.titles = titlesOfValue groups)
    (h : presetOfEntries (titlesOfValue groups) defaultGroup id definition = .ok preset) :
    IsTitleOf groups definition preset.group (registry.groupTitle preset) := by
  have hgiven : ∀ {title : String}, title ≠ "" →
      Option.filter (fun t : String => !t.isEmpty) (some title) = some title := fun hne =>
    Option.filter_eq_some_iff.mpr ⟨rfl, by simpa using hne⟩
  dsimp only [Registry.groupTitle]
  rw [groupTitle_of_presetOfEntries h, htitles]
  cases hfound : (titlesOfValue groups).find? preset.group with
  | some title =>
    have hgives := find?_titlesOfValue_eq_some_iff.mp hfound
    rw [hgiven hgives.ne_empty, Option.some_or, Option.getD_some]
    exact .given hgives
  | none =>
    have hnone : ∀ other, ¬GivesTitle groups preset.group other := by
      intro other hgives
      rw [find?_titlesOfValue_eq_some_iff.mpr hgives] at hfound
      cases hfound
    cases hown : givenText? (definition.get "group_title") with
    | some title =>
      obtain ⟨htitle, hne⟩ := givenText?_eq_some_iff.mp hown
      rw [Option.filter_none, Option.none_or, Option.none_or, hgiven hne, Option.getD_some]
      exact .own hnone htitle hne
    | none =>
      refine .derived hnone fun title htitle => ?_
      by_contra hne
      rw [givenText?_eq_some_iff.mpr ⟨htitle, hne⟩] at hown
      cases hown

/-! ### Loaded presets -/

/-- A source holds a document: it is at hand, or its file has it. -/
inductive PresetSource.Holds (tree : FileTree) : PresetSource → Value → Prop where
  /-- The document is at hand. -/
  | document (entries : Value.Entries) : Holds tree (.document entries) (.map entries)
  /-- The document is read from the file. -/
  | file {path : Path} {document : Value} (hread : ((readDocument path).runOn tree).1 = .ok document) :
    Holds tree (.file path) document

/-- A loaded registry is empty, or it comes from the document that the source holds. -/
theorem exists_holds_of_load {tree : FileTree} {source : PresetSource} {keys : List Value}
    {defaultGroup : Value} {registry : Registry}
    (h : ((Registry.load source keys defaultGroup).runOn tree).1.outcome = .ok registry) :
    registry.presets = [] ∨ ∃ document place, source.Holds tree document ∧
      (Registry.ofDocument document keys defaultGroup place).outcome = .ok registry := by
  cases source with
  | none =>
    cases h
    exact .inl rfl
  | document entries => exact .inr ⟨.map entries, none, .document entries, h⟩
  | file path =>
    rw [FileDialogue.runOn, Registry.load, Dialogue.run_bind] at h
    change (Registry.ofReading path ((readDocument path).runOn tree).1 keys
      defaultGroup).outcome = .ok registry at h
    unfold Registry.ofReading at h
    split at h
    · rename_i document hread
      exact .inr ⟨document, _, .file hread, h⟩
    · obtain ⟨-, -, h⟩ := Noted.outcome_bind_eq_ok_iff.mp h
      cases h
      exact .inl rfl
    · cases h

/-- A preset of a loaded registry stands in the document that the source holds: it has the last
definition under its id, and from that and the definitions of groups its group has a title. -/
theorem exists_definition_of_load {tree : FileTree} {source : PresetSource} {path : List String}
    {defaultGroup : Value} {registry : Registry}
    (h : ((Registry.load source (path.map .str) defaultGroup).runOn tree).1.outcome =
      .ok registry) {id : String} {preset : Preset} (hmem : (id, preset) ∈ registry.presets) :
    ∃ document container items definition, source.Holds tree document ∧
      LeadsToItems document path container items ∧ IsLastDefinition items id definition ∧
      IsTitleOf (container.get "groups") definition preset.group (registry.groupTitle preset) := by
  rcases exists_holds_of_load h with hnil | ⟨document, place, hholds, hdocument⟩
  · rw [hnil] at hmem
    cases hmem
  rcases ofDocument_cases hdocument with ⟨-, message, rfl⟩ |
    ⟨container, items, read, hitems, hread, rfl⟩
  · cases hmem
  · obtain ⟨before, definition, after, hsplit, hlast, hpreset⟩ :=
      exists_definition_of_readFrom hread hmem
    exact ⟨document, container, items, definition, hholds, hitems, ⟨before, after, hsplit, hlast⟩,
      isTitleOf_groupTitle rfl hpreset⟩

/-- No id comes up twice in a loaded registry. -/
theorem nodup_names_of_load {tree : FileTree} {source : PresetSource} {path : List String}
    {defaultGroup : Value} {registry : Registry}
    (h : ((Registry.load source (path.map .str) defaultGroup).runOn tree).1.outcome =
      .ok registry) : registry.presets.names.Nodup := by
  rcases exists_holds_of_load h with hnil | ⟨document, place, -, hdocument⟩
  · rw [hnil]
    exact List.nodup_nil
  rcases ofDocument_cases hdocument with ⟨-, message, rfl⟩ |
    ⟨container, items, read, -, -, rfl⟩
  · exact List.nodup_nil
  · exact Keyed.nodup_names_ofList read

/-- Grouping parts the presets of a loaded registry: the groups are those of the presets, where they
first come up; each has the ids of its presets in the registry's order, so every id stands in one
group, once; and its title is given with the groups, or else with its first preset, or else made
from its id. -/
theorem grouped_parts {tree : FileTree} {source : PresetSource} {path : List String}
    {defaultGroup : String} {registry : Registry}
    (h : ((Registry.load source (path.map .str) (.str defaultGroup)).runOn tree).1.outcome =
      .ok registry) :
    registry.grouped.map (·.id) = (registry.presets.map (·.2.group)).eraseDups ∧
    (∀ group ∈ registry.grouped, group.members = membersOf registry.presets group.id) ∧
    registry.presets.names.Nodup ∧
    (registry.grouped.flatMap (·.members)).Perm registry.presets.names ∧
    ∀ group ∈ registry.grouped, ∃ id preset document container items definition,
      IsFirstOf registry.presets group.id id preset ∧ source.Holds tree document ∧
        LeadsToItems document path container items ∧ IsLastDefinition items id definition ∧
        IsTitleOf (container.get "groups") definition group.id group.title := by
  have hgroups := groups_grouped registry
  refine ⟨hgroups.ids, fun group hgroup => (hgroups.fills group hgroup).members,
    nodup_names_of_load h, hgroups.partition, fun group hgroup => ?_⟩
  obtain ⟨id, preset, hfirst, htitle⟩ := (hgroups.fills group hgroup).title
  obtain ⟨document, container, items, definition, hholds, hitems, hlast, htitled⟩ :=
    exists_definition_of_load h hfirst.mem
  rw [hfirst.group_eq, ← htitle] at htitled
  exact ⟨id, preset, document, container, items, definition, hfirst, hholds, hitems, hlast,
    htitled⟩

/-- A document with a group that no title is given to, one with a title of its first preset, and one
with a title of its own. -/
def threeGroupsDocument : Value.Entries :=
  [(.str "groups", .map [(.str "shade", .map [(.str "title", .str "Shades")])]),
    (.str "items", .map [
      (.str "a", .map [(.str "group", .str "light")]),
      (.str "b", .map [(.str "group", .str "dark"), (.str "group_title", .str "Darkness")]),
      (.str "c", .map [(.str "group", .str "light"), (.str "group_title", .str "Too late")]),
      (.str "d", .map [(.str "group", .str "shade"), (.str "group_title", .str "Hidden")])])]

/-- The registry of that document. -/
def threeGroupsRegistry : Registry :=
  ⟨[("a", ⟨"a", "A", "", "light", none, []⟩),
    ("b", ⟨"b", "B", "", "dark", some "Darkness", []⟩),
    ("c", ⟨"c", "C", "", "light", some "Too late", []⟩),
    ("d", ⟨"d", "D", "", "shade", some "Shades", []⟩)],
    [("shade", "Shades")], .ok, none, none⟩

theorem grouped_parts_threeGroups :
    ((Registry.load (.document threeGroupsDocument) (([] : List String).map .str)
        (.str "theme")).runOn .empty).1.outcome = .ok threeGroupsRegistry ∧
      threeGroupsRegistry.grouped = [⟨"light", "Light", ["a", "c"]⟩, ⟨"dark", "Darkness", ["b"]⟩,
        ⟨"shade", "Shades", ["d"]⟩] ∧
      threeGroupsRegistry.grouped.map (·.id) =
        (threeGroupsRegistry.presets.map (·.2.group)).eraseDups ∧
      (∀ group ∈ threeGroupsRegistry.grouped,
        group.members = membersOf threeGroupsRegistry.presets group.id) ∧
      (threeGroupsRegistry.grouped.flatMap (·.members)).Perm threeGroupsRegistry.presets.names := by
  have hload : ((Registry.load (.document threeGroupsDocument) (([] : List String).map .str)
      (.str "theme")).runOn .empty).1.outcome = .ok threeGroupsRegistry := rfl
  obtain ⟨hids, hmembers, -, hperm, -⟩ := grouped_parts hload
  exact ⟨hload, rfl, hids, hmembers, hperm⟩

end StyleTokens
