import StyleTokens.Json.Printer
import StyleTokens.Log.Line
import StyleTokens.Time.Moment
import StyleTokens.Value.Display

/-!
# Log records

A record is what a log line becomes when it is noted: it has a time, and it may name a component
and carry a context. A record is written in two forms. For a person it is one line with the time
of day, the component and the message; for a program it is a JSON object with all that is known.
-/

namespace StyleTokens.Log

/-- Where a record comes from, as far as it is known; what is not known is empty. -/
structure Origin where
  /-- The file. -/
  file : Value
  /-- The line in it. -/
  line : Value
  /-- The function. -/
  function : Value

/-- Nothing is known about where a record comes from. -/
def Origin.unknown : Origin := ⟨.null, .null, .null⟩

/-- The parts that are known. The outermost level of a file is no function. -/
def Origin.fields (origin : Origin) : List (String × Value) :=
  let function := if origin.function.text? = some "<module>" then .null else origin.function
  [("file", origin.file), ("line", origin.line), ("function", function)].filter
    fun (_, part) => part.truthy

/-- A noted line. -/
structure Record where
  /-- When it was noted. -/
  moment : Moment
  /-- The line. -/
  line : Line
  /-- The component that it is about, when it names one. -/
  component : Option Value
  /-- What belongs to it. -/
  context : Value
  /-- Where it comes from. -/
  origin : Origin
  /-- The failure that it reports, by its kind and its message. -/
  failure : Option (String × String)

namespace Record

/-- The context, if there is one. -/
def contextFields (record : Record) : List (String × Value) :=
  if record.context.truthy then [("context", record.context)] else []

/-- The origin, of a warning or worse and if anything is known about it. -/
def sourceFields (record : Record) : List (String × Value) :=
  if record.line.level < .warning || record.origin.fields.isEmpty then []
  else [("source", .ofFields record.origin.fields)]

/-- The failure, if there is one. -/
def failureFields (record : Record) : List (String × Value) :=
  match record.failure with
  | some (kind, message) =>
    [("exception", .ofFields [("type", .str kind), ("message", .str message)])]
  | none => []

/-- All that is known of a record. -/
def toValue (record : Record) : Value :=
  .ofFields ([("timestamp", .str (record.moment.isoText ++ "Z")),
      ("level", .str record.line.level.name),
      ("component", record.component.getD (.str record.line.logger)),
      ("message", .str record.line.message)] ++
    record.contextFields ++ record.sourceFields ++ record.failureFields)

/-- A record as a JSON object in one line. -/
def json (record : Record) : String := Json.render .ascii7 record.toValue

/-- The last part of a dotted name. -/
def lastPart (name : String) : String := (name.splitOn ".").getLast?.getD ""

/-- The component that a person is shown. -/
def shownComponent (record : Record) : String :=
  (record.component.map Value.display).getD (lastPart record.line.logger)

/-- What switches a terminal to a colour; the number is that of the colour or effect. -/
def escape (code : String) : String := "\x1b[" ++ code ++ "m"

/-- A text in a colour. -/
def painted (code text : String) : String := escape code ++ text ++ escape "0"

/-- The colours of the levels that have a name. -/
def levelColours : List (Level × String) :=
  [(.debug, "36"), (.info, "32"), (.warning, "33"), (.error, "31"), (.critical, "35")]

/-- The name of a level in its colour; other levels have none. -/
def paintedLevel (level : Level) : String :=
  match levelColours.lookup level with
  | some code => painted code level.name
  | none => level.name ++ escape "0"

/-- What stands before the message: the time, the component, and the level unless it is the usual
one. -/
def heading (record : Record) (coloured : Bool) : String :=
  let time := record.moment.clockText
  let component := "[" ++ record.shownComponent ++ "]"
  let level := record.line.level
  let start :=
    if coloured then painted "2" time ++ " " ++ painted "35" component
    else "[" ++ time ++ "] " ++ component
  if level = .info then start
  else start ++ " " ++ (if coloured then paintedLevel level else level.name) ++ ":"

/-- A record for a person. -/
def shown (record : Record) (coloured : Bool) : String :=
  record.heading coloured ++ " " ++ record.line.message

end Record

end StyleTokens.Log
