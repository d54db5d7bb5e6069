import StyleTokens.Fault
import StyleTokens.Text.Case
import StyleTokens.Text.Character
import StyleTokens.Text.Lines

/-!
# Labels made from ids

A preset without a label gets one from its id. An id of three parts with a number in the middle is
read as family, size and weight: `termina-16-400` becomes `Termina • 16px • Regular`. Any other id
becomes its parts, each with a capital letter.
-/

namespace StyleTokens

/-- The name of a font weight. -/
def weightName? : Nat → Option String
  | 100 => some "Thin"
  | 200 => some "Extra Light"
  | 300 => some "Light"
  | 400 => some "Regular"
  | 500 => some "Medium"
  | 600 => some "Semi Bold"
  | 700 => some "Bold"
  | 800 => some "Extra Bold"
  | 900 => some "Black"
  | _ => none

/-- Whether a text is one or more ASCII digits. -/
def isNumeral (text : List Char) : Bool := !text.isEmpty && text.all Text.isAsciiDigit

/-- The whole number that a numeral denotes, unless it is too long. -/
def readNumeral (text : List Char) : Except Fault Nat :=
  if digitLimit < text.length then .error (.unconvertible (.tooManyDigits text.length))
  else .ok (ofDigits text)

/-- The last part of a label: the name of a weight, or the text with a capital letter. -/
def weightLabel (weight : List Char) : Except Fault (List Char) :=
  if isNumeral weight then
    (readNumeral weight).map fun n =>
      match weightName? n with
      | some name => name.toList
      | none => Text.upperFirst weight
  else .ok (Text.upperFirst weight)

/-- Each part with a capital letter, and spaces between them. -/
def titled (parts : List (List Char)) : List Char :=
  [' '].intercalate (parts.map Text.upperFirst)

/-- The label of a family, a size in pixels and a weight. -/
def fontLabel (family size weight : List Char) : Except Fault (List Char) :=
  (weightLabel weight).map fun last =>
    Text.upperFirst family ++ " • ".toList ++ size ++ "px • ".toList ++ last

/-- The label made from an id. -/
def labelOfId (id : List Char) : Except Fault (List Char) :=
  match Text.splitWhere (· == '-') id with
  | [family, size, weight] =>
    if isNumeral size then fontLabel family size weight
    else .ok (titled (Text.splitWhere (fun c => c == '-' || c == '_') id))
  | _ => .ok (titled (Text.splitWhere (fun c => c == '-' || c == '_') id))

/-- The label made from an id. -/
def derivedLabel (id : String) : Except Fault String := (labelOfId id.toList).map String.ofList

/-- The label for an unchecked id, which has to be a text. -/
def derivedLabelOfValue (id : Value) : Except Fault String :=
  match id.text? with
  | some text => derivedLabel text
  | none => .error (.noOperation id.kind "split")

end StyleTokens
