import StyleTokens.CommandLine.Arguments

/-!
# Commands

What can be asked for on the command line: to list presets, to build stylesheets, to compile class
names, to clear or check the cache, to run the conformance corpus, and to tell the version.
-/

namespace StyleTokens.CommandLine

/-- What is asked for. -/
inductive Command where
  /-- The version. -/
  | version
  /-- The presets, as a table or as a JSON document. -/
  | listPresets (manifest : Option String) (asJson : Bool)
  /-- The stylesheet of presets, as it is or in a style element, from the cache or not. -/
  | buildSheet (manifest output : Option String) (asElement cached : Bool)
  /-- The sheet of utility rules. -/
  | buildUtilities (manifest output : Option String)
  /-- The class names of a responsive value; a malformed entry is skipped unless it is an error. -/
  | compileClasses (category value : String) (manifest : Option String) (strict : Bool)
  /-- To remove all that is cached. -/
  | clearCache (manifest : Option String)
  /-- To drop what is cached if the preset source has changed. -/
  | checkCache (manifest : Option String)
  /-- To run a corpus, in the live preview too or not, with the program that runs it. -/
  | runConformance (preview : Bool) (program corpus : Option String)
  deriving DecidableEq, Repr

/-- The option that names a manifest. -/
def manifestOption : OptionForm := ⟨["--manifest", "-m"], "manifest", .value⟩

/-- The option that names a file to write to. -/
def outputOption : OptionForm := ⟨["--output", "-o"], "output", .value⟩

/-- The options that turn a switch on and off. -/
def switchOption (name topic : String) (on : Bool) : OptionForm := ⟨[name], topic, .switch on⟩

namespace Command

/-- Reads the command to list presets. -/
def readList (texts : List String) : Except UsageProblem Command := do
  let given ← readArguments [manifestOption, switchOption "--json" "json" true] [] texts
  return .listPresets (given.value? "manifest") (given.isOn "json" false)

/-- Reads the command to build the stylesheet of presets. -/
def readBuild (texts : List String) : Except UsageProblem Command := do
  let given ← readArguments [manifestOption, outputOption,
    switchOption "--style-tag" "element" true, switchOption "--no-cache" "cached" false] [] texts
  return .buildSheet (given.value? "manifest") (given.value? "output")
    (given.isOn "element" false) (given.isOn "cached" true)

/-- Reads the command to build the sheet of utility rules. -/
def readUtilities (texts : List String) : Except UsageProblem Command := do
  let given ← readArguments [manifestOption, outputOption] [] texts
  return .buildUtilities (given.value? "manifest") (given.value? "output")

/-- Reads the command to compile class names. -/
def readCompile (texts : List String) : Except UsageProblem Command := do
  let given ← readArguments [manifestOption, switchOption "--strict" "strict" true]
    ["CATEGORY", "VALUE"] texts
  return .compileClasses (given.words[0]?.getD "") (given.words[1]?.getD "")
    (given.value? "manifest") (given.isOn "strict" false)

/-- Reads the command to run the conformance corpus. -/
def readConformance (texts : List String) : Except UsageProblem Command := do
  let given ← readArguments [switchOption "--js" "preview" true,
    switchOption "--no-js" "preview" false, ⟨["--node"], "program", .value⟩,
    ⟨["--corpus"], "corpus", .value⟩] [] texts
  return .runConformance (given.isOn "preview" true) (given.value? "program")
    (given.value? "corpus")

/-- Reads a command that only takes a manifest. -/
def readPlain (command : Option String → Command) (texts : List String) :
    Except UsageProblem Command := do
  let given ← readArguments [manifestOption] [] texts
  return command (given.value? "manifest")

/-- Reads what follows the name of a group of commands. -/
def readInGroup (group : String) : List String → Except UsageProblem Command
  | [] => .error .noCommand
  | name :: texts =>
    match group, name with
    | "presets", "list" => readList texts
    | "css", "build" => readBuild texts
    | "css", "utilities" => readUtilities texts
    | "classes", "compile" => readCompile texts
    | "cache", "clear" => readPlain .clearCache texts
    | "cache", "check" => readPlain .checkCache texts
    | "conformance", "run" => readConformance texts
    | _, _ => if isOption name then .error (.unknownOption name) else .error (.unknownCommand name)

/-- The names of the groups of commands. -/
def groups : List String := ["presets", "css", "classes", "cache", "conformance"]

/-- The command that the arguments of the program ask for. -/
def ofTexts : List String → Except UsageProblem Command
  | [] => .error .noCommand
  | group :: texts =>
    if group = "--version" || group = "-v" then .ok .version
    else if groups.contains group then readInGroup group texts
    else if isOption group then .error (.unknownOption group)
    else .error (.unknownCommand group)

end Command

end StyleTokens.CommandLine
