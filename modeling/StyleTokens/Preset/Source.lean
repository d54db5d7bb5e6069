import StyleTokens.ClassName.Responsive
import StyleTokens.Files.Request
import StyleTokens.Json.Parser
import StyleTokens.Log.Line
import StyleTokens.Noted
import StyleTokens.Preset.Basic
import StyleTokens.Preset.Label
import StyleTokens.Text.Lines
import StyleTokens.Value.Items
import StyleTokens.Value.Written
import StyleTokens.Yaml.Document

/-!
# Reading presets

A preset document is a map, given as such or read from a JSON or YAML file. Some keys lead from
its top to the container of presets, which holds the presets by id under `items` and the titles of
groups under `groups`. An id made of other characters than small letters, digits, hyphens and
underscores is skipped, and so is a definition that is no map; both are noted. A document that
cannot be used gives an empty registry that says why.
-/

namespace StyleTokens

/-- What reading presets has to say. -/
inductive RegistryNote where
  /-- A preset was skipped for its id. -/
  | unsafeId (id : String)
  /-- A preset was skipped since its definition is no map. -/
  | notMap (id : String)
  /-- The document cannot be used. -/
  | unusable (message : String)
  /-- So many presets were read from the given place. -/
  | loaded (count : Nat) (origin : String)
  deriving DecidableEq, Repr

/-- A note as a line of the log. -/
def RegistryNote.line (note : RegistryNote) : Log.Line :=
  let logger := Log.rootLogger ++ ".compiler.registry"
  match note with
  | .unsafeId id =>
    ⟨.warning, logger, "Skipping preset with unsafe id " ++ Text.quotedString id⟩
  | .notMap id =>
    ⟨.warning, logger,
      "Skipping preset " ++ Text.quotedString id ++ ": definition is not an object"⟩
  | .unusable message => ⟨.info, logger, message⟩
  | .loaded count origin =>
    ⟨.debug, logger, "Loaded " ++ toString count ++ " presets from " ++ origin⟩

/-- Whether a character may stand in the id of a preset. -/
def isIdChar (c : Char) : Bool :=
  ('a' ≤ c && c ≤ 'z') || ('0' ≤ c && c ≤ '9') || c == '_' || c == '-'

/-- Whether a text may be the id of a preset. -/
def isSafeId (id : String) : Bool := !id.isEmpty && id.toList.all isIdChar

/-- A text that is not empty; anything else counts as absent. -/
def givenText? (value : Value) : Option String :=
  value.text?.filter fun text => !text.isEmpty

/-- The title that a group's definition gives. -/
def titleOf? : Value → Option String
  | .map entries => givenText? (Value.Entries.get entries "title")
  | _ => none

/-- The titles of groups. -/
def titlesOfValue : Value → Keyed String
  | .map entries =>
    Keyed.ofList (entries.filterMap fun (id, group) =>
      (titleOf? group).map fun title => (id.display, title))
  | _ => []

/-- The keys of the groups that have a title. -/
def titledKeys : Value → List Scalar
  | .map entries => (entries.filter fun (_, group) => (titleOf? group).isSome).map (·.1)
  | _ => []

/-- The titles of groups, whose keys have to be such that they can be written. -/
def readTitles (groups : Value) : Except Fault (Keyed String) := do
  writeKeys (titledKeys groups)
  return titlesOfValue groups

/-- The keys of a map; anything else has none. -/
def mapKeys : Value → List Scalar
  | .map entries => entries.map (·.1)
  | _ => []

/-- The properties of a preset, whose keys have to be such that they can be written. -/
def readProperties (properties : Value) : Except Fault PropertyBag := do
  writeKeys (mapKeys properties)
  return canonicalBagOfValue properties

/-- The group that a preset falls into when its definition names none. It has to be a text, and
until that is known it has to be fit for a key. -/
def defaultGroupText (defaultGroup : Value) : Except Fault (Option String) :=
  match defaultGroup with
  | .scalar (.str s) => .ok (some s)
  | .scalar _ => .ok none
  | other => .error (.unhashable other.kind)

/-- The preset that a definition gives. -/
def presetOfEntries (titles : Keyed String) (defaultGroup : Value) (id : String)
    (entries : Value.Entries) : Except Fault Preset := do
  let group? ← match givenText? (entries.get "group") with
    | some group => pure (some group)
    | none => defaultGroupText defaultGroup
  let label ← match givenText? (entries.get "label") with
    | some label => pure label
    | none => derivedLabel id
  let properties ← readProperties (entries.get "properties")
  match group? with
  | none => .error (.invalid [("group", .notText)])
  | some group =>
    return {
      id := id
      label := label
      description := (givenText? (entries.get "description")).getD ""
      group := group
      groupTitle := (titles.find? group).or (givenText? (entries.get "group_title"))
      properties := properties }

/-- Reads one preset; one that is skipped is noted. -/
def readPreset (titles : Keyed String) (defaultGroup : Value) (id : String) (definition : Value) :
    Noted RegistryNote (Option Preset) :=
  if !isSafeId id then do
    Noted.note (.unsafeId id)
    return none
  else
    match definition with
    | .map entries => .quiet ((presetOfEntries titles defaultGroup id entries).map some)
    | _ => do
      Noted.note (.notMap id)
      return none

/-- Reads presets one after the other into those that were read before. -/
def readPresets (titles : Keyed String) (defaultGroup : Value) (presets : Keyed Preset) :
    Value.Entries → Noted RegistryNote (Keyed Preset)
  | [] => .result presets
  | (key, definition) :: rest => do
    let id ← Noted.quiet key.written
    let preset? ← readPreset titles defaultGroup id definition
    match preset? with
    | some preset => readPresets titles defaultGroup (presets.put preset.id preset) rest
    | none => readPresets titles defaultGroup presets rest

/-- The presets of a container and the titles of its groups. -/
def readContainer (container : Value.Entries) (defaultGroup : Value) :
    Noted RegistryNote (Keyed Preset × Keyed String) :=
  match container.get "items" with
  | .map items => do
    let titles ← Noted.quiet (readTitles (container.get "groups"))
    let presets ← readPresets titles defaultGroup [] items
    return (presets, titles)
  | _ => .result ([], [])

/-- The map that keys lead to from the top of a document. -/
def findContainer (node : Value) : List Value → Except Fault (Option Value.Entries)
  | [] => .ok node.entries?
  | key :: rest =>
    match node with
    | .map entries =>
      match key with
      | .scalar name =>
        match Value.Entries.find? entries name with
        | some inner => findContainer inner rest
        | none => .ok none
      | other => .error (.unhashable other.kind)
    | _ => .ok none

/-- The container of presets that keys lead to, if it holds a map of presets. -/
def presetContainer? (document : Value) (keys : List Value) :
    Except Fault (Option Value.Entries) :=
  (findContainer document keys).map fun container =>
    container.filter fun entries => (Value.Entries.get entries "items").entries?.isSome

/-- The report on a document without presets where they are looked for. -/
def noContainerMessage (keys : List Value) : Except Fault String :=
  (textItems 0 keys).map fun names =>
    "Preset source has no '" ++ ".".intercalate (names ++ ["items"]) ++ "' container"

/-- The registry of a document; `path` is the file that it was read from, if it was one. -/
def Registry.ofDocument (document : Value) (keys : List Value) (defaultGroup : Value)
    (path : Option String) : Noted RegistryNote Registry := do
  let container? ← Noted.quiet (presetContainer? document keys)
  match container? with
  | none =>
    let message ← Noted.quiet (noContainerMessage keys)
    Noted.note (.unusable message)
    return .empty .noContainer (some message) path
  | some container =>
    let (presets, titles) ← readContainer container defaultGroup
    Noted.note (.loaded presets.length (path.getD "<document>"))
    return ⟨presets, titles, .ok, none, path⟩

/-- Where presets come from. -/
inductive PresetSource where
  /-- From nowhere. -/
  | none
  /-- From a document that is at hand. -/
  | document (entries : Value.Entries)
  /-- From a file. -/
  | file (path : Path)

/-- The source that an unchecked value stands for: a document, the path of one, or none. -/
def PresetSource.ofValue : Value → Except Fault PresetSource
  | .scalar .null => .ok .none
  | .map entries => .ok (.document entries)
  | .scalar (.str path) => .ok (.file (.ofText path))
  | other => .error (.notPath other.kind)

/-- Whether a file's suffix says that it is YAML. -/
def isYamlSuffix (suffix : String) : Bool :=
  [".yaml", ".yml"].contains (Text.lowerString suffix)

/-- What a document's text holds. -/
def parseDocument (yaml : Bool) (text : String) : Except Refusal Value :=
  if yaml then Yaml.parse text else Json.parse text

/-- The text of a file with every line ended by a line feed. -/
def decodeText (bytes : List UInt8) : Except Text.Utf8Fault String :=
  (Text.decodeUtf8 bytes).map fun text => String.ofList (Text.unifyLines text.toList)

/-- A source whose file is there and cannot be used. -/
def unusableSource (path : Path) (message : String) : Fault :=
  .source (some path.text) SourceStatus.malformed.name (some message)

/-- The document that the bytes of a file hold. -/
def documentOfBytes (path : Path) (bytes : List UInt8) : Except Fault Value :=
  match decodeText bytes with
  | .error fault =>
    .error (unusableSource path
      ("Cannot read preset source " ++ path.text ++ ": " ++ fault.message))
  | .ok text =>
    match parseDocument (isYamlSuffix path.suffix) text with
    | .ok document => .ok document
    | .error (.unconvertible problem) => .error (.unconvertible problem)
    | .error .malformed =>
      .error (unusableSource path ("Invalid preset source " ++ path.text ++ ": not well-formed"))

/-- The document that a file holds, once it has been read. -/
def documentOfRead (path : Path) : Except FileFault (List UInt8) → Except Fault Value
  | .ok bytes => documentOfBytes path bytes
  | .error fault =>
    .error (unusableSource path
      ("Cannot read preset source " ++ path.text ++ ": " ++ fault.message))

/-- Reads the document in a file. -/
def readDocument (path : Path) : FileDialogue (Except Fault Value) :=
  .ask (.exists? path) fun
    | .error fault => .done (.error (.file fault))
    | .ok false => .done (.error (.source (some path.text) SourceStatus.missing.name none))
    | .ok true => .ask (.read path) fun outcome => .done (documentOfRead path outcome)

/-- The status that a source's fault stands for. -/
def statusOfReason (reason : String) : SourceStatus :=
  if reason = SourceStatus.missing.name then .missing else .malformed

/-- The registry of a file's document. A document that cannot be used gives an empty registry. -/
def Registry.ofReading (path : Path) (reading : Except Fault Value) (keys : List Value)
    (defaultGroup : Value) : Noted RegistryNote Registry :=
  match reading with
  | .ok document => Registry.ofDocument document keys defaultGroup (some path.text)
  | .error (.source place reason detail) => do
    let message := (Fault.source place reason detail).message
    Noted.note (.unusable message)
    return .empty (statusOfReason reason) (some message) (some path.text)
  | .error fault => .quiet (.error fault)

/-- Loads presets. A source that cannot be used gives an empty registry. -/
def Registry.load (source : PresetSource) (keys : List Value) (defaultGroup : Value) :
    FileDialogue (Noted RegistryNote Registry) :=
  match source with
  | .none => .done (.result (.empty .missing (some "No preset source configured") none))
  | .document entries => .done (Registry.ofDocument (.map entries) keys defaultGroup none)
  | .file path =>
    (readDocument path).bind fun reading =>
      .done (Registry.ofReading path reading keys defaultGroup)

/-- The keys that lead to the container of presets unless others are given. -/
def defaultContainer : List String := ["modules", "typographyPresets"]

/-- The keys that an unchecked value stands for; what counts as false stands for the default. -/
def containerOfValue (value : Value) : Except Fault (List Value) :=
  if value.truthy then itemsOfValue value else .ok (defaultContainer.map .str)

/-- The default group that an unchecked value stands for; what counts as false stands for the usual
one. -/
def groupOfValue (value : Value) : Value := if value.truthy then value else .str defaultGroup

end StyleTokens
