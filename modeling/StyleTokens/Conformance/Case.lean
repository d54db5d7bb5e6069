import StyleTokens.ClassName.Responsive
import StyleTokens.Json.Writable
import StyleTokens.Preset.Source
import StyleTokens.Preset.Stylesheet

/-!
# Conformance cases

A case names an operation of the library, its input, and the output that is expected. Two
implementations that answer all cases of a corpus alike can stand in for each other.
-/

namespace StyleTokens.Conformance

/-- The operations that a case may name. -/
inductive Operation where
  /-- The sides of a token entry. -/
  | normalize
  /-- A class name. -/
  | className
  /-- The classes of a responsive value. -/
  | responsive
  /-- The spacing classes of an element. -/
  | spacing
  /-- The canonical form of a property. -/
  | property
  /-- The label for an id. -/
  | label
  /-- The text of a declaration's value. -/
  | value
  /-- The rule of a preset. -/
  | rule
  /-- The stylesheet of presets. -/
  | sheet
  /-- The presets of a document. -/
  | presets
  deriving DecidableEq, Repr

namespace Operation

/-- All operations. -/
def order : List Operation :=
  [.normalize, .className, .responsive, .spacing, .property, .label, .value, .rule, .sheet,
    .presets]

/-- The name of an operation in a case. -/
def name : Operation → String
  | .normalize => "normalize"
  | .className => "compile_class"
  | .responsive => "compile_responsive"
  | .spacing => "compile_spacing"
  | .property => "canonical_property"
  | .label => "derive_label"
  | .value => "process_value"
  | .rule => "generate"
  | .sheet => "generate_all"
  | .presets => "load_presets"

/-- The operation with a name. -/
def ofName? (name : String) : Option Operation :=
  order.find? fun operation => operation.name == name

end Operation

/-- An entry of an input that has to be there. -/
def demand (input : Value) (name : String) : Except Fault Value :=
  match input with
  | .map entries =>
    match Value.Entries.get? entries name with
    | some value => .ok value
    | none => .error (.absentKey (.str name))
  | other => .error (.noEntries other.kind)

/-- An entry of an input, null if it is not there. -/
def offer (input : Value) (name : String) : Except Fault Value :=
  match input with
  | .map entries => .ok (Value.Entries.get entries name)
  | other => .error (.noOperation other.kind "get")

/-- The sides of an entry as data. -/
def sidesValue (sides : Sides) : Value := .ofFields (sides.map fun (side, v) => (side.name, .str v))

/-- A preset as data. -/
def presetValue (preset : Preset) : Value :=
  .ofFields [("label", .str preset.label), ("description", .str preset.description),
    ("group", .str preset.group), ("group_title", .optional preset.groupTitle),
    ("properties", .ofFields preset.properties)]

/-- A registry as data. -/
def registryValue (registry : Registry) : Value :=
  .ofFields [("status", .str registry.status.name),
    ("presets", .list (registry.presets.map fun (id, preset) =>
      .list [.str id, presetValue preset]))]

/-- Loads the presets of an input. -/
def runPresets (input : Value) : FileDialogue (Except Fault Value) :=
  let request : Except Fault (PresetSource × List Value × Value) := do
    let document ← offer input "document"
    let container ← containerOfValue (← offer input "container")
    let group := groupOfValue (← offer input "default_group")
    return (← PresetSource.ofValue document, container, group)
  match request with
  | .error fault => .done (.error fault)
  | .ok (source, container, group) => do
    let reading ← Registry.load source container group
    return reading.outcome.map registryValue

/-- The output of an operation that reads no file. -/
def compute (operation : Operation) (input : Value) : Except Fault Value := do
  match operation with
  | .normalize => return sidesValue (← StyleTokens.normalize (← offer input "raw"))
  | .className =>
    let stem ← demand input "property_abbrev"
    let slug ← demand input "breakpoint"
    let side ← demand input "side"
    return .str (← classNameOfValues stem slug side (← demand input "value"))
  | .responsive =>
    let category ← demand input "category"
    let valueMap ← offer input "value_map"
    let order ← offer input "breakpoint_order"
    return .str (joinClasses (← (compileResponsive category valueMap order).outcome))
  | .spacing =>
    let attributes ← offer input "attributes"
    return .str (← (compileSpacing attributes (← offer input "breakpoint_order")).outcome)
  | .property => return .str (← canonicalPropertyOfValue (← demand input "name"))
  | .label => return .str (← derivedLabelOfValue (← demand input "id"))
  | .value =>
    let property ← demand input "property"
    return .optional (← declarationValue (property.text?.getD "") (← offer input "value"))
  | .rule =>
    let id ← demand input "id"
    let preset ← demand input "preset"
    return .str (← ruleOfValue id preset (← offer input "annotate").truthy)
  | .sheet =>
    let registry ← demand input "registry"
    return .str (← sheetOfValue registry (← offer input "annotate").truthy)
  | .presets => return .null

/-- The output of an operation. -/
def Operation.run (operation : Operation) (input : Value) : FileDialogue (Except Fault Value) :=
  if operation = .presets then runPresets input else .done (compute operation input)

/-- The operation that a case names. -/
def operationOf (case : Value.Entries) : Except Fault Operation :=
  let kind := (case.get? "kind").getD (.str "")
  let unknown : Except Fault Operation :=
    .error (.notConforming ("Unknown case kind: " ++ (case.get "kind").literalString))
  match kind with
  | .list _ | .map _ => .error (.unhashable kind.kind)
  | .scalar (.str name) =>
    match Operation.ofName? name with
    | some operation => .ok operation
    | none => unknown
  | .scalar _ => unknown

/-- The input of a case; one that counts as false stands for none. -/
def inputOf (case : Value.Entries) : Value :=
  let input := case.get "input"
  if input.truthy then input else .map []

/-- The output of the library for a case, as JSON has it. -/
def runCase (case : Value.Entries) : FileDialogue (Except Fault Value) :=
  match operationOf case with
  | .error fault => .done (.error fault)
  | .ok operation => do
    let output ← operation.run (inputOf case)
    return output.bind Json.rewritten

end StyleTokens.Conformance
