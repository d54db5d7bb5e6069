/-!
# Arguments

The arguments of a command are its words and its options. An option has one or more names, long
ones with two hyphens and short ones of one letter, and either takes a value or is a switch. A
value follows its option, or stands behind an equals sign or behind the letter; letters of
switches may be joined. Two hyphens end the options.
-/

namespace StyleTokens.CommandLine

/-- What an option does. -/
inductive OptionKind where
  /-- It takes a value. -/
  | value
  /-- It turns a switch on or off. -/
  | switch (on : Bool)
  deriving DecidableEq, Repr

/-- An option of a command. -/
structure OptionForm where
  /-- Its names, hyphens included. -/
  names : List String
  /-- What it is about. -/
  topic : String
  /-- What it does. -/
  kind : OptionKind
  deriving DecidableEq, Repr

/-- Why arguments make no sense. -/
inductive UsageProblem where
  /-- No command is named. -/
  | noCommand
  /-- There is no such command. -/
  | unknownCommand (name : String)
  /-- There is no such option. -/
  | unknownOption (name : String)
  /-- An option that takes a value has none. -/
  | missingValue (name : String)
  /-- A switch has a value. -/
  | needlessValue (name : String)
  /-- A word is missing. -/
  | missingWord (name : String)
  /-- There are too many words. -/
  | extraWords (words : List String)
  deriving DecidableEq, Repr

/-- The wording of a problem. -/
def UsageProblem.message : UsageProblem → String
  | .noCommand => "Missing command."
  | .unknownCommand name => "No such command '" ++ name ++ "'."
  | .unknownOption name => "No such option: " ++ name
  | .missingValue name => "Option '" ++ name ++ "' requires an argument."
  | .needlessValue name => "Option '" ++ name ++ "' does not take a value."
  | .missingWord name => "Missing argument '" ++ name ++ "'."
  | .extraWords words =>
    (if words.length = 1 then "Got unexpected extra argument ("
      else "Got unexpected extra arguments (") ++ " ".intercalate words ++ ")"

/-- The arguments of a command. -/
structure Arguments where
  /-- The words, in order. -/
  words : List String
  /-- The values of options, by topic; the last one counts. -/
  values : List (String × String)
  /-- The switches, by topic; the last one counts. -/
  switches : List (String × Bool)
  deriving DecidableEq, Repr

namespace Arguments

/-- No arguments. -/
def none : Arguments := ⟨[], [], []⟩

/-- The value of an option. -/
def value? (arguments : Arguments) (topic : String) : Option String :=
  arguments.values.reverse.lookup topic

/-- Whether a switch is on, when it is `usual` unless it is given. -/
def isOn (arguments : Arguments) (topic : String) (usual : Bool) : Bool :=
  (arguments.switches.reverse.lookup topic).getD usual

/-- The arguments and one more word. -/
def addWord (arguments : Arguments) (word : String) : Arguments :=
  { arguments with words := arguments.words ++ [word] }

/-- The arguments and the value of one more option. -/
def addValue (arguments : Arguments) (topic value : String) : Arguments :=
  { arguments with values := arguments.values ++ [(topic, value)] }

/-- The arguments and one more switch. -/
def addSwitch (arguments : Arguments) (topic : String) (on : Bool) : Arguments :=
  { arguments with switches := arguments.switches ++ [(topic, on)] }

end Arguments

/-- The option with a name. -/
def findOption (forms : List OptionForm) (name : String) : Option OptionForm :=
  forms.find? fun form => form.names.contains name

/-- What has been read of the arguments: they are complete, or an option waits for its value. -/
inductive ArgumentState where
  /-- Nothing is missing. -/
  | complete (arguments : Arguments)
  /-- The value of the option of a name is missing. -/
  | awaiting (arguments : Arguments) (name topic : String)

/-- Reads joined letters: switches, and at the end an option with a value, which follows at once or
is the next argument. -/
def readLetters (forms : List OptionForm) (arguments : Arguments) :
    List Char → Except UsageProblem ArgumentState
  | [] => .ok (.complete arguments)
  | letter :: rest =>
    let name := String.ofList ['-', letter]
    match findOption forms name with
    | none => .error (.unknownOption name)
    | some ⟨_, topic, .switch on⟩ => readLetters forms (arguments.addSwitch topic on) rest
    | some ⟨_, topic, .value⟩ =>
      if rest.isEmpty then .ok (.awaiting arguments name topic)
      else .ok (.complete (arguments.addValue topic (String.ofList rest)))

/-- Reads an option by its whole name. -/
def readNamed (forms : List OptionForm) (arguments : Arguments) (text : String) :
    Except UsageProblem ArgumentState :=
  let name := String.ofList (text.toList.takeWhile (· != '='))
  match findOption forms name, text.toList.dropWhile (· != '=') with
  | none, _ => .error (.unknownOption name)
  | some ⟨_, topic, .value⟩, _ :: value =>
    .ok (.complete (arguments.addValue topic (String.ofList value)))
  | some ⟨_, topic, .value⟩, [] => .ok (.awaiting arguments name topic)
  | some ⟨_, topic, .switch on⟩, [] => .ok (.complete (arguments.addSwitch topic on))
  | some ⟨_, _, .switch _⟩, _ :: _ => .error (.needlessValue name)

/-- Reads one option. -/
def readOption (forms : List OptionForm) (arguments : Arguments) (text : String) :
    Except UsageProblem ArgumentState :=
  if text.startsWith "--" then readNamed forms arguments text
  else readLetters forms arguments (text.toList.drop 1)

/-- Whether an argument is an option. -/
def isOption (text : String) : Bool := text.startsWith "-" && 1 < text.length

/-- Reads arguments from a state on. -/
def readFrom (forms : List OptionForm) : ArgumentState → List String → Except UsageProblem Arguments
  | .complete arguments, [] => .ok arguments
  | .awaiting _ name _, [] => .error (.missingValue name)
  | .awaiting arguments _ topic, text :: rest =>
    readFrom forms (.complete (arguments.addValue topic text)) rest
  | .complete arguments, text :: rest =>
    if text = "--" then .ok (rest.foldl Arguments.addWord arguments)
    else if isOption text then
      (readOption forms arguments text).bind fun state => readFrom forms state rest
    else readFrom forms (.complete (arguments.addWord text)) rest

/-- Reads the arguments of a command with some options and a word for each of some names. -/
def readArguments (forms : List OptionForm) (names texts : List String) :
    Except UsageProblem Arguments :=
  match readFrom forms (.complete .none) texts with
  | .error problem => .error problem
  | .ok arguments =>
    match names[arguments.words.length]? with
    | some name => .error (.missingWord name)
    | none =>
      match arguments.words.drop names.length with
      | [] => .ok arguments
      | extra => .error (.extraWords extra)

end StyleTokens.CommandLine
