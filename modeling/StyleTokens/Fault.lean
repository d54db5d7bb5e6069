import StyleTokens.Files.Problem
import StyleTokens.Terminal.Tags
import StyleTokens.Text.Utf8
import StyleTokens.Time.Moment
import StyleTokens.Value.Display
import StyleTokens.Value.Refusal

/-!
# Faults

Everything that can go wrong, by cause. Data of an unexpected shape, numbers without a text,
settings that make no sense, sources that cannot be read and backends that do not answer are told
apart by constructors; the wording of each stands in one place, `Fault.message`.
-/

namespace StyleTokens

/-- Where in a settings file a fault lies. -/
structure Place where
  /-- The file. -/
  file : String
  /-- The dotted key inside the file, when one is known. -/
  key : Option String
  deriving DecidableEq, Repr

/-- The place as a line of a report: the file, and the key in brackets. -/
def Place.text (place : Place) : String :=
  match place.key with
  | some key => if key.isEmpty then place.file else place.file ++ " [" ++ key ++ "]"
  | none => place.file

/-- A message, and the place in a settings file that it is about when one is known. -/
structure Report where
  /-- Where the fault lies. -/
  place : Option Place
  /-- What is wrong. -/
  message : String
  deriving DecidableEq, Repr

/-- A report as text: the place on a line of its own, then the message. -/
def Report.text (report : Report) : String :=
  match report.place with
  | some place => place.text ++ "\n" ++ report.message
  | none => report.message

/-- What is wrong with a field of a record built from data. -/
inductive FieldProblem where
  /-- The field has no default and is absent. -/
  | required
  /-- The field has to be a text. -/
  | notText
  /-- The field has to be a map. -/
  | notMap
  /-- The field has to be the one given word. -/
  | notWord (word : String)
  /-- The field holds no side value, for the given reason. -/
  | notSide (reason : String)
  deriving DecidableEq, Repr

/-- The wording of a field's problem. -/
def FieldProblem.message : FieldProblem → String
  | .required => "Field required"
  | .notText => "Input should be a valid string"
  | .notMap => "Input should be a valid dictionary"
  | .notWord word => "Input should be '" ++ word ++ "'"
  | .notSide reason => "Value error, " ++ reason

/-- What a hole of a template may say about the size of its text. -/
inductive Quantity where
  /-- The least number of characters. -/
  | width
  /-- The number of digits, or the greatest number of characters. -/
  | precision
  deriving DecidableEq, Repr

/-- The largest size that may be said: that of a signed word, of 64 bits or of 32. -/
def Quantity.bound : Quantity → Nat
  | .width => Nat.pow 2 63 - 1
  | .precision => Nat.pow 2 31 - 1

/-- The name of a quantity. -/
def Quantity.name : Quantity → String
  | .width => "width"
  | .precision => "precision"

/-- The name of the machine word that holds a quantity. -/
def Quantity.wordName : Quantity → String
  | .width => "C ssize_t"
  | .precision => "C int"

/-- How a template and its arguments may fail to fit. -/
inductive TemplateProblem where
  /-- The template ends inside a hole. -/
  | unfinished
  /-- The template ends inside the key of a hole. -/
  | openKey
  /-- A hole has a key, and the arguments are no map. -/
  | needsMap
  /-- There are more holes than arguments. -/
  | tooFew
  /-- There are more arguments than holes. -/
  | unused
  /-- A width or precision is no whole number. -/
  | measureNotInt
  /-- An argument is no such width or precision. -/
  | argumentRange (quantity : Quantity)
  /-- A width or precision is too large. -/
  | tooBig (quantity : Quantity)
  /-- A whole number would get too many digits. -/
  | tooManyDigits
  /-- A text would get too long. -/
  | tooLong
  /-- The letter of a hole at a position has no meaning. -/
  | unknownLetter (letter : Char) (position : Nat)
  /-- A hole with this letter takes a number. -/
  | notReal (letter : Char) (kind : Kind)
  /-- A hole with this letter takes a whole number. -/
  | notWhole (letter : Char) (kind : Kind)
  /-- A hole takes a number. -/
  | notNumber (kind : Kind)
  /-- A hole takes a single character. -/
  | notChar
  /-- A number is no character. -/
  | charRange
  /-- The double that is no number is no whole number either. -/
  | notANumber
  deriving DecidableEq

/-- The wording of a template's problem. -/
def TemplateProblem.message : TemplateProblem → String
  | .unfinished => "incomplete format"
  | .openKey => "incomplete format key"
  | .needsMap => "format requires a mapping"
  | .tooFew => "not enough arguments for format string"
  | .unused => "not all arguments converted during string formatting"
  | .measureNotInt => "* wants int"
  | .argumentRange quantity => "Python int too large to convert to " ++ quantity.wordName
  | .tooBig quantity => quantity.name ++ " too big"
  | .tooManyDigits => "precision too large"
  | .tooLong => ""
  | .unknownLetter letter position =>
    let shown := if 0x1F ≤ letter.toNat ∧ letter.toNat < 0x7F then letter else '?'
    "unsupported format character '" ++ shown.toString ++ "' (0x" ++
      String.ofList (Nat.toDigits 16 letter.toNat) ++ ") at index " ++ toString position
  | .notReal letter kind =>
    "%" ++ letter.toString ++ " format: a real number is required, not " ++ kind.name
  | .notWhole letter kind =>
    "%" ++ letter.toString ++ " format: an integer is required, not " ++ kind.name
  | .notNumber kind => "must be real number, not " ++ kind.name
  | .notChar => "%c requires int or char"
  | .charRange => "%c arg not in range(0x110000)"
  | .notANumber => "cannot convert float NaN to integer"

/-- Everything that can go wrong. -/
inductive Fault where
  /-- A value of this sort has no such operation. -/
  | noOperation (kind : Kind) (operation : String)
  /-- A value of this sort has no entries under names. -/
  | noEntries (kind : Kind)
  /-- A value of this sort cannot be a cell of a table. -/
  | notCell (kind : Kind)
  /-- A value of this sort has no items. -/
  | notIterable (kind : Kind)
  /-- A value of this sort cannot be a key. -/
  | unhashable (kind : Kind)
  /-- A value of this sort is no path. -/
  | notPath (kind : Kind)
  /-- A value of this sort is no text. -/
  | notText (kind : Kind)
  /-- An item of a list of texts that are joined is no text. -/
  | itemNotText (index : Nat) (kind : Kind)
  /-- The item of a sequence of pairs is no pair. -/
  | itemNotPair (index : Nat)
  /-- The item of a sequence of pairs has another length. -/
  | pairLength (index length : Nat)
  /-- Two keys of these sorts have no order. -/
  | unordered (left right : Kind)
  /-- Values of these sorts have no sum. -/
  | noSum (left right : Kind)
  /-- A map lacks a key. -/
  | absentKey (key : Scalar)
  /-- A store of this sort does not count its entries. -/
  | noLength (owner : String)
  /-- An infinite number has no digits. -/
  | infiniteNumber
  /-- A whole number is past every double. -/
  | integerRange
  /-- An infinite number is no whole number. -/
  | infinityToInteger
  /-- A part of a text cannot be converted to a value. -/
  | unconvertible (problem : ConversionProblem)
  /-- A value of this sort cannot be written as JSON. -/
  | notJson (kind : Kind)
  /-- A value of this sort cannot be written as a key in JSON. -/
  | notJsonKey (kind : Kind)
  /-- Bytes are no UTF-8. -/
  | decoding (fault : Text.Utf8Fault)
  /-- A side has none of the seven names. -/
  | unknownSide (side : Scalar)
  /-- The value with the given literal is none of the three style categories. -/
  | unknownCategory (literal : String)
  /-- A value is no token entry. -/
  | unknownEntry (kind : Kind)
  /-- Fields of a record built from data are wrong. -/
  | invalid (problems : List (String × FieldProblem))
  /-- Settings cannot be read or make no sense. -/
  | config (report : Report)
  /-- A preset source cannot be used. -/
  | source (path : Option String) (reason : String) (message : Option String)
  /-- A cache backend cannot be reached. -/
  | cacheUnavailable (report : Report)
  /-- A conformance run cannot be carried out. -/
  | conformance (report : Report)
  /-- A script that is not bundled was asked for. -/
  | missingScript (name : String)
  /-- A text generator failed. -/
  | generator (message : String)
  /-- A template and its arguments do not fit. -/
  | template (problem : TemplateProblem)
  /-- A number is no moment that can be shown. -/
  | moment (problem : Moment.Problem)
  /-- A text with style tags cannot be shown. -/
  | tag (problem : Terminal.TagProblem)
  /-- An operation on a path failed. -/
  | file (fault : FileFault)
  deriving DecidableEq

namespace Fault

/-- The report of a fault. -/
def message : Fault → String
  | .noOperation kind operation =>
    "'" ++ kind.name ++ "' object has no attribute '" ++ operation ++ "'"
  | .noEntries .list => "list indices must be integers or slices, not str"
  | .noEntries .str => "string indices must be integers, not 'str'"
  | .noEntries kind => "'" ++ kind.name ++ "' object is not subscriptable"
  | .notCell kind =>
    "unable to render " ++ kind.shortName ++ "; a string or other renderable object is required"
  | .notIterable kind => "'" ++ kind.name ++ "' object is not iterable"
  | .notJson kind => "Object of type " ++ kind.shortName ++ " is not JSON serializable"
  | .notJsonKey kind =>
    "keys must be str, int, float, bool or None, not " ++ kind.shortName
  | .unhashable kind => "unhashable type: '" ++ kind.name ++ "'"
  | .notPath kind => "expected str, bytes or os.PathLike object, not " ++ kind.shortName
  | .notText kind => "expected string or bytes-like object, got '" ++ kind.name ++ "'"
  | .itemNotText index kind =>
    "sequence item " ++ toString index ++ ": expected str instance, " ++ kind.name ++ " found"
  | .itemNotPair index =>
    "cannot convert dictionary update sequence element #" ++ toString index ++ " to a sequence"
  | .pairLength index length =>
    "dictionary update sequence element #" ++ toString index ++ " has length " ++
      toString length ++ "; 2 is required"
  | .unordered left right =>
    "'<' not supported between instances of '" ++ left.name ++ "' and '" ++ right.name ++ "'"
  | .noSum left right =>
    "unsupported operand type(s) for +: '" ++ left.name ++ "' and '" ++ right.name ++ "'"
  | .absentKey key => String.ofList key.literal
  | .noLength owner => "object of type '" ++ owner ++ "' has no len()"
  | .infiniteNumber => "[<class 'decimal.InvalidOperation'>]"
  | .integerRange => "int too large to convert to float"
  | .infinityToInteger => "cannot convert float infinity to integer"
  | .unconvertible problem => problem.message
  | .decoding fault => fault.message
  | .unknownSide side => "Unknown side key: " ++ String.ofList side.literal
  | .unknownCategory literal => literal ++ " is not a valid StyleCategory"
  | .unknownEntry kind => "Unknown token entry type: " ++ kind.shortName
  | .invalid problems =>
    "; ".intercalate (problems.map fun (field, problem) => field ++ ": " ++ problem.message)
  | .config report => report.text
  | .source path reason detail =>
    match detail with
    | some "" | none =>
      "Preset source unavailable (" ++ reason ++ "): " ++ path.getD "<document>"
    | some message => message
  | .cacheUnavailable report => report.text
  | .conformance report => report.text
  | .missingScript name => "JavaScript module not found: " ++ name
  | .generator message => message
  | .template problem => problem.message
  | .moment problem => problem.message
  | .tag problem => problem.message
  | .file fault => fault.message

/-- Settings that cannot be read or make no sense. -/
def inSettings (file : String) (key : Option String) (message : String) : Fault :=
  .config ⟨some ⟨file, key⟩, message⟩

/-- A cache backend that cannot be reached. -/
def cacheDown (message : String) : Fault := .cacheUnavailable ⟨none, message⟩

/-- A conformance run that cannot be carried out. -/
def notConforming (message : String) : Fault := .conformance ⟨none, message⟩

end Fault

end StyleTokens
