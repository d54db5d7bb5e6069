import StyleTokens.CommandLine.Caching
import StyleTokens.CommandLine.Command
import StyleTokens.CommandLine.Conformance
import StyleTokens.CommandLine.Stylesheets

/-!
# The program

The program reads a command from its arguments, carries it out and ends with a code: zero if all
went well, two if the arguments make no sense, and one if the command refused or failed.
-/

namespace StyleTokens.CommandLine

/-- The name of the program. -/
def programName : String := "tokensmith"

/-- The version of the program. -/
def programVersion : String := "0.3.0"

/-- Carries a command out. -/
def carryOut (session : Session) : Command → Step Unit
  | .version => do
    Step.say .out (programName ++ " " ++ programVersion)
    Step.say .out session.platform
  | .listPresets manifest asJson => listPresets session manifest asJson
  | .buildSheet manifest output asElement cached =>
    buildSheet session manifest output asElement cached
  | .buildUtilities manifest output => buildUtilities session manifest output
  | .compileClasses category value manifest strict =>
    compileClasses session category value manifest strict
  | .clearCache manifest => clearCache session manifest
  | .checkCache manifest => checkCache session manifest
  | .runConformance preview program corpus => runConformance session preview program corpus

/-- How the program ends. -/
structure Exit where
  /-- The code. -/
  code : Nat
  /-- What went wrong and was not handled. -/
  fault : Option Fault
  deriving DecidableEq

/-- How the program ends after a command. -/
def exitAfter : Except Ending Unit → Exit
  | .ok () => ⟨0, none⟩
  | .error .refused => ⟨1, none⟩
  | .error (.failed fault) => ⟨1, some fault⟩

/-- Reads a command and carries it out. -/
def perform (session : Session) (texts : List String) : EffectDialogue Exit :=
  match Command.ofTexts texts with
  | .ok command => Dialogue.bind (carryOut session command) fun outcome => .done (exitAfter outcome)
  | .error problem =>
    .ask (.print .err ("Error: " ++ problem.message ++ "\n")) fun _ => .done ⟨2, none⟩

/-- The log of the program before it is set up. -/
def logAtStart (session : Session) : Log.System :=
  .start ["cli"] (Log.colourWanted session.environment.noColor session.isTerminal)

/-- The program: notes go to the log. -/
def program (session : Session) (texts : List String) : EffectDialogue Exit :=
  ((perform session texts).serve Log.System.serve (logAtStart session)).bind fun result =>
    .done result.1

end StyleTokens.CommandLine
