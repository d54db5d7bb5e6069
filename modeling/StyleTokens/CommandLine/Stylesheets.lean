import StyleTokens.CommandLine.Session
import StyleTokens.Json.Parser
import StyleTokens.Json.Printer
import StyleTokens.Json.Writable
import StyleTokens.Render.Page

/-!
# Presets, stylesheets and class names

The presets of a project are shown in a table, group by group, or written as a JSON document. The
stylesheet of presets and the sheet of utility rules are written to a file or shown; the class
names of a responsive value are shown.
-/

namespace StyleTokens.CommandLine

/-! ### Presets -/

/-- A preset with all its fields. -/
def presetDocument (preset : Preset) : Value :=
  .ofFields [("id", .str preset.id), ("label", .str preset.label),
    ("description", .str preset.description), ("group", .str preset.group),
    ("group_title", .optional preset.groupTitle), ("properties", .ofFields preset.properties)]

/-- The document about the presets of a project. -/
def registryDocument (registry : Registry) : Value :=
  .ofFields [("status", .str registry.status.name), ("error", .optional registry.problem),
    ("presets", .list (registry.presets.map fun (_, preset) => presetDocument preset))]

/-- The rows of the table, group by group. -/
def presetRows (registry : Registry) : List (List String) :=
  registry.grouped.flatMap fun group => group.members.filterMap fun id =>
    (Keyed.find? registry.presets id).map fun preset =>
      [id, preset.label, group.title, toString preset.properties.length]

/-- The table of presets. -/
def presetTable (registry : Registry) : Terminal.Table :=
  ⟨"Typography Presets",
    [⟨"ID", false⟩, ⟨"Label", false⟩, ⟨"Group", false⟩, ⟨"Properties", true⟩],
    presetRows registry⟩

/-- Shows the presets for a person. -/
def showPresets (session : Session) (registry : Registry) : Step Unit := do
  unless registry.available do
    session.display ("[yellow]Preset source unavailable (" ++ registry.status.name ++
      "):[/yellow] " ++ registry.problem.getD "None")
  if registry.presets.isEmpty then session.display "[dim]No presets found.[/dim]"
  else
    session.draw (presetTable registry)
    session.display ("\n[dim]" ++ toString registry.presets.length ++ " preset(s) shown[/dim]")

/-- Lists the presets of a project. -/
def listPresets (session : Session) (manifest : Option String) (asJson : Bool) : Step Unit := do
  let project ← session.openProject manifest
  let registry ← RenderContext.loadRegistry project
  if asJson then
    let document := registryDocument registry
    Action.ofExcept (Json.checkValue false document)
    Step.say .out (Json.renderIndented document)
  else showPresets session registry

/-! ### Stylesheets -/

/-- What is said about a project whose presets could not be loaded. -/
def warnOfSource (project : Manifest) (context : RenderContext) : Step Unit := do
  if !context.registry.available && project.source.path.isSome then
    Step.say .err ("Warning: " ++ context.registry.problem.getD "None" ++
      " (generating an empty stylesheet)")

/-- Builds the stylesheet of presets. -/
def buildSheet (session : Session) (manifest output : Option String) (asElement cached : Bool) :
    Step Unit := do
  let project ← session.openProject manifest
  let context ← RenderContext.build project .null none cached
  warnOfSource project context
  let page := if asElement then context.headElement else context.pageSheet
  let text ← Step.ofAction (page.bind fun result => .done result.1)
  writeOutput text output

/-- Builds the sheet of utility rules. -/
def buildUtilities (session : Session) (manifest output : Option String) : Step Unit := do
  let project ← session.openProject manifest
  let context ← RenderContext.build project .null none false
  let text := context.utilities
  if text.isEmpty then
    Step.say .err "No spacing scale configured; add [[spacing]] entries to tokensmith.toml"
  writeOutput text output

/-- The word for all style categories at once. -/
def allCategories : String := "spacing"

/-- The words for style categories. -/
def categoryWords : List String := StyleCategory.order.map StyleCategory.name ++ [allCategories]

/-- The class names of a value in the words for style categories. -/
def classesOf (category : String) (data order : Value) : Noted Malformed String :=
  if category = allCategories then
    compileSpacing (match data with | .map entries => .map entries | _ => .null) order
  else do
    let classes ← compileResponsive (.str category) data order
    return joinClasses classes

/-- What is said about a malformed entry. -/
def skippedLine (entry : Malformed) : String :=
  "Skipped malformed entry " ++ Json.render .ascii7 entry.raw ++ ": " ++ entry.reason

/-- The data that a text holds as JSON. -/
def readData (text : String) : Step Value :=
  match Json.parse text with
  | .ok data => return data
  | .error .malformed => Step.refuse "Invalid JSON: not well-formed"
  | .error (.unconvertible problem) => throw (.failed (.unconvertible problem))

/-- Compiles the class names of a responsive value. -/
def compileClasses (session : Session) (category value : String) (manifest : Option String)
    (strict : Bool) : Step Unit := do
  unless categoryWords.contains category do
    Step.refuse ("Unknown category '" ++ category ++ "' (expected one of " ++
      ", ".intercalate categoryWords ++ ")")
  let data ← readData value
  let project ← session.openProject manifest
  let compiled := classesOf category data (.list project.output.breakpointOrder)
  let classes ← Action.noted Malformed.line compiled
  for entry in compiled.notes do
    Step.say .err (skippedLine entry)
  if strict && !compiled.notes.isEmpty then throw .refused
  Step.say .out classes

end StyleTokens.CommandLine
