import StyleTokens.Proofs.Dialogue
import StyleTokens.Proofs.Files.Directory
import StyleTokens.Proofs.Json.Refusal
import StyleTokens.Proofs.Preset.Loading

/-!
# When loading presets fails

A source that is missing or malformed gives an empty registry. What else goes wrong is not caught:
a whole number in the document may be too long to be read or to be written, and so may the weight
in an id that a label is made from.
-/

namespace StyleTokens

/-! ### Keys -/

/-- A key is a whole number with more digits than can be written. -/
def Scalar.IsTooLong (key : Scalar) : Prop :=
  ∃ n : Int, key = .num (.int n) ∧ digitLimit < digitCount n.natAbs

/-- Only whole numbers can be too long to be written. -/
theorem writeProblem?_ne_none_iff {key : Scalar} : key.writeProblem? ≠ none ↔ key.IsTooLong := by
  unfold Scalar.writeProblem? Scalar.IsTooLong
  split
  · rename_i n
    by_cases hlong : digitLimit < digitCount n.natAbs
    · simp [hlong]
    · simp [hlong]
  · rename_i hint
    simp only [ne_eq, not_true_eq_false, false_iff, not_exists, not_and]
    exact fun n hkey => absurd hkey (hint n)

/-- A key that is written by itself fails to be so exactly if it is too long. -/
theorem scalar_written_fault_iff {key : Scalar} :
    (∃ fault, key.written = .error fault) ↔ key.IsTooLong := by
  rw [← writeProblem?_ne_none_iff, Scalar.written]
  cases key.writeProblem? with
  | none => simp
  | some problem => simp

/-- Keys fail to be written exactly if one of them is too long. -/
theorem writeKeys_fault_iff {keys : List Scalar} :
    (∃ fault, writeKeys keys = .error fault) ↔ ∃ key ∈ keys, key.IsTooLong := by
  have hproblem : keys.findSome? Scalar.writeProblem? ≠ none ↔ ∃ key ∈ keys, key.IsTooLong := by
    simp only [ne_eq, List.findSome?_eq_none_iff, not_forall, exists_prop]
    exact exists_congr fun key => and_congr_right fun _ => writeProblem?_ne_none_iff
  rw [← hproblem, writeKeys]
  cases keys.findSome? Scalar.writeProblem? with
  | none => simp
  | some problem => simp

/-- Properties fail to be read exactly if one of their keys is too long. -/
theorem readProperties_fault_iff {properties : Value} :
    (∃ fault, readProperties properties = .error fault) ↔
      ∃ key ∈ mapKeys properties, key.IsTooLong := by
  rw [← writeKeys_fault_iff]
  exact bind_ok_fault_iff _

/-- The titles of groups fail to be read exactly if the key of one of these is too long. -/
theorem readTitles_fault_iff {groups : Value} :
    (∃ fault, readTitles groups = .error fault) ↔ ∃ key ∈ titledKeys groups, key.IsTooLong := by
  rw [← writeKeys_fault_iff]
  exact bind_ok_fault_iff _

/-! ### Presets -/

/-- A definition from which no preset can be made: there is no label and none can be made from the
id, or the key of a property is too long. -/
inductive IsUnreadable (id : String) (definition : Value.Entries) : Prop where
  /-- There is no label, and the weight in the id is too long for one. -/
  | label (hnone : givenText? (definition.get "label") = none) (hlong : HasLongWeight id.toList)
  /-- The key of a property is too long. -/
  | property {key : Scalar} (hkey : key ∈ mapKeys (definition.get "properties"))
      (hlong : key.IsTooLong)

/-- A label is missing exactly if there is none and none can be made from the id. -/
theorem givenLabel_fault_iff {id : String} {definition : Value.Entries} :
    (∃ fault, givenLabel id definition = .error fault) ↔
      givenText? (definition.get "label") = none ∧ HasLongWeight id.toList := by
  unfold givenLabel
  cases givenText? (definition.get "label") with
  | some label => simp
  | none =>
    have hderived : (∃ fault, derivedLabel id = .error fault) ↔ HasLongWeight id.toList := by
      rw [← labelOfId_fault_iff]
      exact exists_congr fun fault => map_eq_error_iff
    simpa using hderived

/-- A definition fails to give a preset exactly if none can be made from it. -/
theorem presetOfEntries_fault_iff {titles : Keyed String} {defaultGroup id : String}
    {definition : Value.Entries} :
    (∃ fault, presetOfEntries titles (.str defaultGroup) id definition = .error fault) ↔
      IsUnreadable id definition := by
  have hgroup : ∃ group, givenGroup (.str defaultGroup) definition = .ok (some group) := by
    unfold givenGroup
    cases givenText? (definition.get "group") with
    | some group => exact ⟨group, rfl⟩
    | none => exact ⟨defaultGroup, rfl⟩
  obtain ⟨group, hgroup⟩ := hgroup
  rw [presetOfEntries_eq, hgroup, ok_bind]
  rw [bind_fault_iff fun label _ => (bind_ok_fault_iff _).trans readProperties_fault_iff,
    givenLabel_fault_iff]
  constructor
  · rintro (⟨hnone, hlong⟩ | ⟨key, hkey, hlong⟩)
    · exact .label hnone hlong
    · exact .property hkey hlong
  · rintro (⟨hnone, hlong⟩ | ⟨hkey, hlong⟩)
    · exact .inl ⟨hnone, hlong⟩
    · exact .inr ⟨_, hkey, hlong⟩

/-- An item that cannot be read: its key is too long, or it defines a preset that cannot be made. -/
def ItemFails (item : Scalar × Value) : Prop :=
  item.1.IsTooLong ∨
    ∃ id definition, presetItem? item = some (id, definition) ∧ IsUnreadable id definition

/-- A preset fails to be read exactly if the item defines one that cannot be made. -/
theorem readPreset_fault_iff {titles : Keyed String} {defaultGroup : String} {key : Scalar}
    {value : Value} :
    (∃ fault, (readPreset titles (.str defaultGroup) key.display value).outcome =
        .error fault) ↔
      ∃ id definition, presetItem? (key, value) = some (id, definition) ∧
        IsUnreadable id definition := by
  rw [outcome_readPreset]
  cases presetItem? (key, value) with
  | none => simp
  | some item =>
    obtain ⟨id, definition⟩ := item
    dsimp only
    rw [exists_congr fun fault => map_eq_error_iff, presetOfEntries_fault_iff]
    simp

/-- Presets fail to be read exactly if one of the items cannot be. -/
theorem readPresets_fault_iff {titles : Keyed String} {defaultGroup : String}
    {items : Value.Entries} :
    ∀ before, (∃ fault, (readPresets titles (.str defaultGroup) before items).outcome =
        .error fault) ↔ ∃ item ∈ items, ItemFails item := by
  induction items with
  | nil => simp [readPresets]
  | cons item rest ih =>
    intro before
    obtain ⟨key, value⟩ := item
    rw [List.exists_mem_cons_iff, ItemFails, or_assoc, ← scalar_written_fault_iff]
    refine Noted.fault_bind_iff fun id hid => ?_
    obtain rfl := eq_of_scalar_written hid
    rw [← @readPreset_fault_iff titles defaultGroup]
    refine Noted.fault_bind_iff fun preset? _ => ?_
    cases preset? with
    | none => exact ih _
    | some preset => exact ih _

/-! ### Documents -/

/-- A document that has presets where keys lead, but the key of a group with a title is too long, or
one of the items cannot be read. -/
def DocumentFails (document : Value) (path : List String) : Prop :=
  ∃ container items, LeadsToItems document path container items ∧
    ((∃ key ∈ titledKeys (container.get "groups"), key.IsTooLong) ∨
      ∃ item ∈ items, ItemFails item)

/-- Presets fail to be read from a container exactly if the key of a group with a title is too long,
or one of the items cannot be read. -/
theorem readContainer_fault_iff {container items : Value.Entries} {defaultGroup : String}
    (hitems : container.get? "items" = some (.map items)) :
    (∃ fault, (readContainer container (.str defaultGroup)).outcome = .error fault) ↔
      (∃ key ∈ titledKeys (container.get "groups"), key.IsTooLong) ∨
        ∃ item ∈ items, ItemFails item := by
  have hget : container.get "items" = .map items := by
    rw [Value.Entries.get, hitems]
    rfl
  unfold readContainer
  rw [hget, ← readTitles_fault_iff]
  refine Noted.fault_bind_iff fun titles _ => ?_
  rw [Noted.fault_bind_iff_of_ok fun presets => Noted.outcome_pure (presets, titles)]
  exact readPresets_fault_iff []

/-- The report on a missing container can always be made from keys that are texts. -/
theorem exists_noContainerMessage (path : List String) :
    ∃ message, noContainerMessage (path.map .str) = .ok message :=
  ⟨_, congrArg (Except.map _) (textItems_map_str 0 path)⟩

/-- A registry fails to be made from a document exactly if there are presets that cannot be
read. -/
theorem ofDocument_fault_iff {document : Value} {path : List String} {defaultGroup : String}
    {place : Option String} :
    (∃ fault, (Registry.ofDocument document (path.map .str) (.str defaultGroup) place).outcome =
        .error fault) ↔ DocumentFails document path := by
  obtain ⟨container?, hfound, hleads⟩ := exists_presetContainer? document path
  unfold Registry.ofDocument
  rw [Noted.outcome_bind, Noted.outcome_quiet, hfound, ok_bind]
  cases container? with
  | none =>
    have hnone : ¬DocumentFails document path := by
      rintro ⟨container, items, hitems, -⟩
      cases (hleads container).mpr ⟨items, hitems⟩
    obtain ⟨message, hmessage⟩ := exists_noContainerMessage path
    rw [hmessage]
    simp [hnone, Noted.outcome_bind, ok_bind]
  | some container =>
    obtain ⟨items, hitems⟩ := (hleads container).mp rfl
    have hfails : DocumentFails document path ↔
        ∃ fault, (readContainer container (.str defaultGroup)).outcome = .error fault := by
      rw [readContainer_fault_iff hitems.2]
      constructor
      · rintro ⟨container', items', hitems', hfails⟩
        obtain ⟨rfl, rfl⟩ := hitems.unique hitems'
        exact hfails
      · exact fun hfails => ⟨container, items, hitems, hfails⟩
    rw [hfails]
    exact Noted.fault_bind_iff_of_ok fun read => rfl

/-! ### Files -/

/-- The bytes of a file that are UTF-8, but hold something that the reader of JSON cannot convert,
or a document that fails. -/
def BytesFail (bytes : List UInt8) (path : List String) : Prop :=
  ∃ text, decodeText bytes = .ok text ∧
    ((∃ problem, Json.parse text = .error (.unconvertible problem)) ∨
      ∃ document, Json.parse text = .ok document ∧ DocumentFails document path)

/-- A file that exists is read as its bytes say. -/
theorem runOn_readDocument {tree : FileTree} {file : Path} {bytes : List UInt8}
    (hfile : tree.find file = .ok (.file bytes)) :
    ((readDocument file).runOn tree).1 = documentOfBytes file bytes := by
  simp only [FileDialogue.runOn, readDocument, Dialogue.run, FileTree.answer_exists?,
    FileTree.exists?_of_find hfile, FileTree.answer_read, FileTree.read_of_find hfile]
  rfl

/-- A registry fails to be made from bytes exactly if these fail: whatever else is wrong with them
is reported. -/
theorem ofReading_fault_iff {file : Path} {bytes : List UInt8} {path : List String}
    {defaultGroup : String} (hsuffix : isYamlSuffix file.suffix = false) :
    (∃ fault, (Registry.ofReading file (documentOfBytes file bytes) (path.map .str)
        (.str defaultGroup)).outcome = .error fault) ↔ BytesFail bytes path := by
  unfold documentOfBytes parseDocument BytesFail
  rw [hsuffix]
  cases decodeText bytes with
  | error fault => simp [Registry.ofReading, unusableSource, Noted.outcome_bind, ok_bind]
  | ok text =>
    cases hparse : Json.parse text with
    | ok document =>
      have hdocument := @ofDocument_fault_iff document path defaultGroup (some file.text)
      simpa [hparse, Registry.ofReading] using hdocument
    | error refusal =>
      cases refusal with
      | malformed => simp [hparse, Registry.ofReading, unusableSource, Noted.outcome_bind, ok_bind]
      | unconvertible problem => simp [hparse, Registry.ofReading]

/-- Loading returns a registry. -/
def Loads (tree : FileTree) (source : PresetSource) (path : List String) (defaultGroup : String) :
    Prop :=
  ∃ registry, ((Registry.load source (path.map .str) (.str defaultGroup)).runOn tree).1.outcome =
    .ok registry

/-- Loading from a document returns a registry exactly if the document does not fail. -/
theorem loads_document_iff (tree : FileTree) (entries : Value.Entries) (path : List String)
    (defaultGroup : String) :
    Loads tree (.document entries) path defaultGroup ↔ ¬DocumentFails (.map entries) path := by
  rw [Loads, exists_ok_iff]
  exact not_congr ofDocument_fault_iff

/-- Loading from a JSON file that exists returns a registry exactly if its bytes do not fail. -/
theorem loads_file_iff {tree : FileTree} {file : Path} {bytes : List UInt8}
    (hfile : tree.find file = .ok (.file bytes)) (hsuffix : isYamlSuffix file.suffix = false)
    (path : List String) (defaultGroup : String) :
    Loads tree (.file file) path defaultGroup ↔ ¬BytesFail bytes path := by
  have hload : ((Registry.load (.file file) (path.map .str) (.str defaultGroup)).runOn tree).1 =
      Registry.ofReading file (documentOfBytes file bytes) (path.map .str) (.str defaultGroup) := by
    rw [← runOn_readDocument hfile]
    exact congrArg Prod.fst (Dialogue.run_bind _ _ _ _)
  rw [Loads, exists_ok_iff, hload]
  exact not_congr (ofReading_fault_iff hsuffix)

/-- Bytes fail only as a text with too many digits in a row, with too many brackets, or with a
document that fails. -/
theorem cause_of_bytesFail {bytes : List UInt8} {path : List String} (h : BytesFail bytes path) :
    ∃ text, decodeText bytes = .ok text ∧
      (Json.HasLongRun text.toList ∨ Json.depthLimit < Json.openings text.toList ∨
        ∃ document, Json.parse text = .ok document ∧ DocumentFails document path) := by
  obtain ⟨text, hdecode, ⟨problem, hparse⟩ | hdocument⟩ := h
  · rcases Json.long_or_deep_of_unconvertible hparse with hlong | hdeep
    · exact ⟨text, hdecode, .inl hlong⟩
    · exact ⟨text, hdecode, .inr (.inl hdeep)⟩
  · exact ⟨text, hdecode, .inr (.inr hdocument)⟩

/-- Loading from a document, or from a JSON file that exists with whatever bytes, returns a registry
exactly if the document or the bytes do not fail. A file with few digits in a row and few brackets
can only fail for its document. -/
theorem loads_iff (tree : FileTree) (path : List String) (defaultGroup : String) :
    (∀ entries, Loads tree (.document entries) path defaultGroup ↔
      ¬DocumentFails (.map entries) path) ∧
    ∀ file bytes, tree.find file = .ok (.file bytes) → isYamlSuffix file.suffix = false →
      (Loads tree (.file file) path defaultGroup ↔ ¬BytesFail bytes path) ∧
      (BytesFail bytes path → ∃ text, decodeText bytes = .ok text ∧
        (Json.HasLongRun text.toList ∨ Json.depthLimit < Json.openings text.toList ∨
          ∃ document, Json.parse text = .ok document ∧ DocumentFails document path)) := by
  refine ⟨fun entries => loads_document_iff tree entries path defaultGroup, ?_⟩
  intro file bytes hfile hsuffix
  exact ⟨loads_file_iff hfile hsuffix path defaultGroup, cause_of_bytesFail⟩

/-- A file with nothing in it. -/
def emptyFileTree : FileTree := ⟨[(["presets.json"], .file [])], []⟩

/-- The place of that file. -/
def emptyFile : Path := .ofText "/presets.json"

theorem loads_iff_emptyFile :
    emptyFileTree.find emptyFile = .ok (.file []) ∧ isYamlSuffix emptyFile.suffix = false ∧
      (Loads emptyFileTree (.file emptyFile) ["modules"] "theme" ↔ ¬BytesFail [] ["modules"]) ∧
      ¬BytesFail [] ["modules"] := by
  have hfile : emptyFileTree.find emptyFile = .ok (.file []) := by decide +kernel
  have hsuffix : isYamlSuffix emptyFile.suffix = false := by decide +kernel
  refine ⟨hfile, hsuffix, ((loads_iff _ _ _).2 _ _ hfile hsuffix).1, ?_⟩
  have hdecode : decodeText [] = .ok "" := by decide +kernel
  have hparse : Json.parse "" = .error .malformed := rfl
  rintro ⟨text, htext, hfails⟩
  obtain rfl : "" = text := Except.ok.inj (hdecode.symm.trans htext)
  simp [hparse] at hfails

/-- An id with a weight of more digits than can be read. -/
def heavyId : List Char := ['a', '-', '1', '-'] ++ List.replicate (digitLimit + 1) '1'

/-- A document with one preset, which has that id and no label. -/
def heavyDocument : Value.Entries :=
  [(.str "items", .map [(.str (String.ofList heavyId), .map [])])]

/-- That id is safe. -/
theorem isSafeId_heavyId : isSafeId (String.ofList heavyId) = true := by
  have hchars : heavyId.all isIdChar = true := by
    rw [heavyId, List.all_append, List.all_replicate]
    decide
  rw [isSafeId, String.toList_ofList, hchars]
  simp [heavyId]

/-- That id has a long weight. -/
theorem hasLongWeight_heavyId : HasLongWeight heavyId := by
  have hweight : isNumeral (List.replicate (digitLimit + 1) '1') = true := by
    rw [isNumeral, List.all_replicate]
    decide
  refine ⟨['a'], ['1'], List.replicate (digitLimit + 1) '1', rfl, by decide, by decide, hweight, ?_⟩
  rw [List.length_replicate]
  omega

/-- Not every document is loaded, and neither is every file. -/
theorem not_loads :
    ¬((∀ tree entries path defaultGroup, Loads tree (.document entries) path defaultGroup) ∧
      ∀ tree file bytes path defaultGroup, tree.find file = .ok (.file bytes) →
        file.suffix = ".json" → Loads tree (.file file) path defaultGroup) := by
  rintro ⟨hloads, -⟩
  refine (loads_document_iff .empty heavyDocument [] "theme").mp (hloads _ _ _ _) ?_
  have hitem : presetItem? (.str (String.ofList heavyId), .map []) =
      some (String.ofList heavyId, []) :=
    presetItem?_eq_some_iff.mpr ⟨isSafeId_heavyId, rfl, rfl⟩
  have hunreadable : IsUnreadable (String.ofList heavyId) [] := by
    refine .label rfl ?_
    rw [String.toList_ofList]
    exact hasLongWeight_heavyId
  exact ⟨heavyDocument, _, ⟨.here _, rfl⟩,
    .inr ⟨_, List.mem_singleton_self _, .inr ⟨_, _, hitem, hunreadable⟩⟩⟩

end StyleTokens
