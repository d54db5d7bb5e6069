import StyleTokens.Log.System
import StyleTokens.Render.Context
import StyleTokens.Settings.Manifest
import StyleTokens.Terminal.Table

/-!
# Sessions

A command runs in a directory and an environment. It writes what it was asked for and what there
is to say about it; it may end early because it has to refuse, after saying why, or because
something went wrong that it does not handle.
-/

namespace StyleTokens.CommandLine

/-- What a command runs in. -/
structure Session where
  /-- The directory that relative paths start from. -/
  directory : Path
  /-- The environment. -/
  environment : Environment
  /-- Whether the terminal shows colours, if it is one. -/
  isTerminal : Bool
  /-- How many cells a line of the screen has. -/
  screen : Nat
  /-- What the program runs on. -/
  platform : String

/-- How a command ends early. -/
inductive Ending where
  /-- It refused, after it said why. -/
  | refused
  /-- Something went wrong that it does not handle. -/
  | failed (fault : Fault)
  deriving DecidableEq

/-- A computation with effects that may end early. -/
abbrev Step := ExceptT Ending EffectDialogue

namespace Step

variable {α : Type}

/-- An action whose fault ends the command. -/
def ofAction (action : Action α) : Step α :=
  (Dialogue.bind action fun outcome => .done (outcome.mapError .failed) : EffectDialogue _)

instance : MonadLift Action Step := ⟨ofAction⟩

/-- The outcome of an action, which may be a fault. -/
def outcome (action : Action α) : Step (Except Fault α) :=
  (Dialogue.bind action fun outcome => .done (.ok outcome) : EffectDialogue _)

/-- Writes a line. -/
def say (channel : Channel) (line : String) : Step Unit := Action.print channel (line ++ "\n")

/-- Ends the command, after a line on why. -/
def refuse (line : String) : Step α := do
  say .err line
  throw .refused

/-- An action on the store of a cache; the store afterwards is dropped. -/
def perform (store : Store) (action : CacheAction α) : Step (Except Fault α) :=
  outcome ((store.perform action).bind fun result => .done result.1 : EffectDialogue _)

end Step

namespace Session

/-- Writes a text with style tags, and ends the line. -/
def display (session : Session) (text : String) : Step Unit := do
  Step.say .out (← Action.ofExcept ((Terminal.shown session.screen text).mapError .tag))

/-- Draws a table. -/
def draw (session : Session) (table : Terminal.Table) : Step Unit := do
  Action.print .out (← Action.ofExcept ((table.text session.screen).mapError .tag))

/-- The manifest that a command uses: the named one, which has to be there, or the nearest one in
the directory and those above it. -/
def findManifest (session : Session) : Option String → Step (Option Path)
  | none => Action.files (Manifest.find session.directory)
  | some name => do
    let path ← Action.ofExcept
      ((FileTree.resolve session.directory (.ofText name)).mapError .file)
    let there ← (Action.files (.ask (.exists? path) fun answer => .done (answer.mapError .file)) :
      Action Bool)
    if there then return some path
    else Step.refuse ("Manifest not found: " ++ path.text)

/-- The settings of a manifest, or those of a project without one. -/
def readManifest (session : Session) : Option Path → Step Manifest
  | none => return .standard session.directory session.environment
  | some path => do
    match ← Step.outcome (Action.files (Manifest.load path session.environment)) with
    | .ok manifest => return manifest
    | .error (.config report) => Step.refuse ("Invalid manifest: " ++ report.text)
    | .error fault => throw (.failed fault)

/-- Sets the log up as the settings of a project ask. -/
def setUpLog (settings : LogSettings) : Action Unit :=
  .ask (.logTo (Log.Level.ofSetting settings.level) settings.directory) fun outcome =>
    .done (outcome.map fun _ => ())

/-- The settings of the project that a command is about; its log is set up. -/
def openProject (session : Session) (name : Option String) : Step Manifest := do
  let manifest ← session.readManifest (← session.findManifest name)
  setUpLog manifest.logging
  return manifest

end Session

/-- Writes a text to a file, or else as what was asked for, its last line ended. -/
def writeOutput (text : String) : Option String → Step Unit
  | none => Action.print .out (if text.endsWith "\n" then text else text ++ "\n")
  | some name => do
    let path := Path.ofText name
    Action.files (.ask (.makeDirectories path.parent) fun answer =>
      .done (answer.mapError .file))
    Action.files (.ask (.write path (Text.encodeUtf8 text)) fun answer =>
      .done (answer.mapError .file))
    Step.say .err ("✓ Wrote " ++ path.text)

end StyleTokens.CommandLine
