import StyleTokens.Preset.Property
import StyleTokens.Record

/-!
# Presets

A preset is a named bag of style properties. Presets belong to groups, which have titles of their
own; a registry holds presets in the order of the document that they were read from, and says how
reading that document went.
-/

namespace StyleTokens

/-- A named bag of style properties. -/
structure Preset where
  /-- The key of the preset, which its selector ends with. -/
  id : String
  /-- The name shown to people. -/
  label : String
  /-- What the preset is for. -/
  description : String
  /-- The group that it belongs to. -/
  group : String
  /-- The title of that group, when the document gives one. -/
  groupTitle : Option String
  /-- The properties under canonical names. -/
  properties : PropertyBag

/-- The group of presets that name none unless another is given. -/
def defaultGroup : String := "theme"

/-- The preset of the given fields. -/
def Preset.ofFields (fields : Value.Entries) : Except Fault Preset :=
  ((((((Checked.requiredText fields "id").map Preset.mk).apply
    (Checked.requiredText fields "label")).apply
    (Checked.textOr fields "description" "")).apply
    (Checked.textOr fields "group" defaultGroup)).apply
    (Checked.optionalText fields "group_title")).apply
    ((Checked.mapOr fields "properties").map bagOfEntries) |>.toExcept

/-- How reading a preset document went. -/
inductive SourceStatus where
  /-- The presets were read. -/
  | ok
  /-- There is no document. -/
  | missing
  /-- The document cannot be read. -/
  | malformed
  /-- The document holds no presets where they are looked for. -/
  | noContainer
  deriving DecidableEq, Repr

/-- The name of a status in reports. -/
def SourceStatus.name : SourceStatus → String
  | .ok => "ok"
  | .missing => "missing"
  | .malformed => "malformed"
  | .noContainer => "no_container"

/-- Presets in order, and how reading them went. -/
structure Registry where
  /-- The presets by id. -/
  presets : Keyed Preset
  /-- The titles that the document gives to groups. -/
  titles : Keyed String
  /-- How reading the document went. -/
  status : SourceStatus
  /-- Why there are no presets, unless all went well. -/
  problem : Option String
  /-- Where the document was read from, if it was a file. -/
  path : Option String

/-- A group of presets. -/
structure PresetGroup where
  /-- The group's id. -/
  id : String
  /-- The title shown to people. -/
  title : String
  /-- The ids of its presets, in the order of the registry. -/
  members : List String
  deriving DecidableEq, Repr

namespace Registry

/-- A registry without presets. -/
def empty (status : SourceStatus) (problem : Option String) (path : Option String) : Registry :=
  ⟨[], [], status, problem, path⟩

/-- Whether the document was read. -/
def available (registry : Registry) : Bool := registry.status == .ok

/-- The text that sums a registry up. -/
def summary (registry : Registry) : String :=
  "PresetRegistry(" ++ toString registry.presets.length ++ " presets, status=" ++
    registry.status.name ++ ")"

/-- The title of a preset's group: the document's, then the preset's own, then the id with a
capital letter. Empty titles are passed over. -/
def groupTitle (registry : Registry) (preset : Preset) : String :=
  let given (title : Option String) : Option String := title.filter fun t => !t.isEmpty
  ((given (Keyed.find? registry.titles preset.group)).or (given preset.groupTitle)).getD
    (Text.upperFirstString preset.group)

/-- A preset added to its group, which is opened if it is new. -/
def addToGroup (registry : Registry) (groups : List PresetGroup) (id : String) (preset : Preset) :
    List PresetGroup :=
  match groups with
  | [] => [⟨preset.group, registry.groupTitle preset, [id]⟩]
  | group :: rest =>
    if group.id = preset.group then ⟨group.id, group.title, group.members ++ [id]⟩ :: rest
    else group :: registry.addToGroup rest id preset

/-- The groups of a registry, in the order of their first presets. -/
def grouped (registry : Registry) : List PresetGroup :=
  registry.presets.foldl (fun groups (id, preset) => registry.addToGroup groups id preset) []

end Registry

end StyleTokens
