import StyleTokens.Number.StyleText
import StyleTokens.Preset.Property
import StyleTokens.Text.Character
import StyleTokens.Text.Markup

/-!
# Declarations

A property's value becomes the text of a declaration. Numbers are written as everywhere in a
stylesheet, a line height of `auto` is `normal`, letter spacing in percent becomes a length in
`em`, and markup characters are removed. What has no text is left out, and so are the texts that
stand for no value.
-/

namespace StyleTokens

/-- The texts that stand for no value. -/
def blankWords : List String := ["", "undefined", "null"]

/-- The text of a property value before any rule is applied; truth values and structures have
none. -/
def rawText? : Value → Except Fault (Option String)
  | .scalar (.num n) => n.styleText.map fun text => some (String.ofList text)
  | .scalar (.str s) => .ok (some s)
  | _ => .ok none

/-- A decimal with an optional sign and an optional fraction, both sides of the point with at least
one digit. -/
def readDecimal? (text : List Char) : Option (Bool × Decimal) :=
  let negative := text.head? == some '-'
  let unsigned := if negative then text.drop 1 else text
  let whole := unsigned.takeWhile Text.isAsciiDigit
  if whole.isEmpty then none
  else
    match unsigned.drop whole.length with
    | [] => some (negative, ⟨ofDigits whole, 0⟩)
    | '.' :: fraction =>
      if !fraction.isEmpty && fraction.all Text.isAsciiDigit then
        some (negative, ⟨ofDigits (whole ++ fraction), -(fraction.length : Int)⟩)
      else none
    | _ => none

/-- The number before a percent sign, when a text is nothing else. -/
def percentage? (text : List Char) : Option (Bool × Decimal) :=
  match text.reverse with
  | '%' :: number => readDecimal? number.reverse
  | _ => none

/-- A percentage as a length in `em`: one hundredth of it, computed in doubles. -/
def emLength (negative : Bool) (amount : Decimal) : Except Fault String :=
  let hundredth := Decimal.toBinary64 false ⟨1, -2⟩
  (Number.float ((amount.toBinary64 negative).mul hundredth)).significantText?.map fun text =>
    String.ofList text ++ "em"

/-- The text of a value after the rules of its property. -/
def propertyText (property text : String) : Except Fault String :=
  if property = "line-height" ∧ text = "auto" then .ok "normal"
  else if property = "letter-spacing" then
    match percentage? text.toList with
    | some (negative, amount) => emLength negative amount
    | none => .ok text
  else .ok text

/-- The text of a declaration's value; none when the declaration is left out. -/
def declarationValue (property : String) (value : Value) : Except Fault (Option String) := do
  match ← rawText? value with
  | none => return none
  | some raw =>
    if blankWords.contains raw then return none
    else
      let safe := Text.stripMarkupString (← propertyText property raw)
      return if safe.isEmpty then none else some safe

/-- A property with the text of its value. -/
structure Declaration where
  /-- The property. -/
  property : String
  /-- The text of its value. -/
  value : String
  deriving DecidableEq, Repr

/-- The line of a declaration in a rule. -/
def Declaration.line (declaration : Declaration) : String :=
  "    " ++ declaration.property ++ ": " ++ declaration.value ++ ";"

/-- The declaration of one property, if there is one. -/
def declaration? (name : String) (value : Value) : Except Fault (Option Declaration) :=
  match stylesheetProperty? name with
  | none => .ok none
  | some property =>
    (declarationValue property value).map fun text => text.map fun text => ⟨property, text⟩

/-- The declarations of a bag, in its order. -/
def declarations (bag : PropertyBag) : Except Fault (List Declaration) :=
  (List.filterMap id) <$> bag.mapM fun (name, value) => declaration? name value

end StyleTokens
