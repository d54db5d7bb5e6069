import StyleTokens.Number.Decimal
import StyleTokens.Text.Blank
import StyleTokens.Text.Case
import StyleTokens.Text.Character
import StyleTokens.Text.Lines

/-!
# Styles

A style is described by words: attributes that are switched on, or off behind `not`, a colour of
the text, a colour of the ground behind `on`, and the target of a link behind `link`. The normal
form of a description names everything once and in a fixed order, so that two descriptions of one
style have one normal form. A text that describes no style is its own normal form, in lower case.
-/

namespace StyleTokens.Terminal

/-- The names of the 256 colours of a terminal; some colours have several names. -/
def colourNames : List String := [
  "black", "red", "green", "yellow", "blue", "magenta", "cyan", "white", "bright_black",
  "bright_red", "bright_green", "bright_yellow", "bright_blue", "bright_magenta", "bright_cyan",
  "bright_white", "grey0", "gray0", "navy_blue", "dark_blue", "blue3", "blue1", "dark_green",
  "deep_sky_blue4", "dodger_blue3", "dodger_blue2", "green4", "spring_green4", "turquoise4",
  "deep_sky_blue3", "dodger_blue1", "green3", "spring_green3", "dark_cyan", "light_sea_green",
  "deep_sky_blue2", "deep_sky_blue1", "spring_green2", "cyan3", "dark_turquoise", "turquoise2",
  "green1", "spring_green1", "medium_spring_green", "cyan2", "cyan1", "dark_red", "deep_pink4",
  "purple4", "purple3", "blue_violet", "orange4", "grey37", "gray37", "medium_purple4",
  "slate_blue3", "royal_blue1", "chartreuse4", "dark_sea_green4", "pale_turquoise4", "steel_blue",
  "steel_blue3", "cornflower_blue", "chartreuse3", "cadet_blue", "sky_blue3", "steel_blue1",
  "pale_green3", "sea_green3", "aquamarine3", "medium_turquoise", "chartreuse2", "sea_green2",
  "sea_green1", "aquamarine1", "dark_slate_gray2", "dark_magenta", "dark_violet", "purple",
  "light_pink4", "plum4", "medium_purple3", "slate_blue1", "yellow4", "wheat4", "grey53", "gray53",
  "light_slate_grey", "light_slate_gray", "medium_purple", "light_slate_blue", "dark_olive_green3",
  "dark_sea_green", "light_sky_blue3", "sky_blue2", "dark_sea_green3", "dark_slate_gray3",
  "sky_blue1", "chartreuse1", "light_green", "pale_green1", "dark_slate_gray1", "red3",
  "medium_violet_red", "magenta3", "dark_orange3", "indian_red", "hot_pink3", "medium_orchid3",
  "medium_orchid", "medium_purple2", "dark_goldenrod", "light_salmon3", "rosy_brown", "grey63",
  "gray63", "medium_purple1", "gold3", "dark_khaki", "navajo_white3", "grey69", "gray69",
  "light_steel_blue3", "light_steel_blue", "yellow3", "dark_sea_green2", "light_cyan3",
  "light_sky_blue1", "green_yellow", "dark_olive_green2", "dark_sea_green1", "pale_turquoise1",
  "deep_pink3", "magenta2", "hot_pink2", "orchid", "medium_orchid1", "orange3", "light_pink3",
  "pink3", "plum3", "violet", "light_goldenrod3", "tan", "misty_rose3", "thistle3", "plum2",
  "khaki3", "light_goldenrod2", "light_yellow3", "grey84", "gray84", "light_steel_blue1", "yellow2",
  "dark_olive_green1", "honeydew2", "light_cyan1", "red1", "deep_pink2", "deep_pink1", "magenta1",
  "orange_red1", "indian_red1", "hot_pink", "dark_orange", "salmon1", "light_coral",
  "pale_violet_red1", "orchid2", "orchid1", "orange1", "sandy_brown", "light_salmon1",
  "light_pink1", "pink1", "plum1", "gold1", "navajo_white1", "misty_rose1", "thistle1", "yellow1",
  "light_goldenrod1", "khaki1", "wheat1", "cornsilk1", "grey100", "gray100", "grey3", "gray3",
  "grey7", "gray7", "grey11", "gray11", "grey15", "gray15", "grey19", "gray19", "grey23", "gray23",
  "grey27", "gray27", "grey30", "gray30", "grey35", "gray35", "grey39", "gray39", "grey42",
  "gray42", "grey46", "gray46", "grey50", "gray50", "grey54", "gray54", "grey58", "gray58",
  "grey62", "gray62", "grey66", "gray66", "grey70", "gray70", "grey74", "gray74", "grey78",
  "gray78", "grey82", "gray82", "grey85", "gray85", "grey89", "gray89", "grey93", "gray93"]

/-- Why a text describes no style. -/
inductive StyleProblem where
  /-- A word is none of those that describe styles, or one is missing. -/
  | wording
  /-- A colour is given by numbers, one of which has no digits. -/
  | noDigits
  deriving DecidableEq, Repr

/-- The attributes, in the order of the normal form. -/
def attributeNames : List String :=
  ["bold", "dim", "italic", "underline", "blink", "blink2", "reverse", "conceal", "strike",
    "underline2", "frame", "encircle", "overline"]

/-- Short names of attributes. -/
def shortAttributes : List (String × String) :=
  [("b", "bold"), ("c", "conceal"), ("d", "dim"), ("i", "italic"), ("o", "overline"),
    ("r", "reverse"), ("s", "strike"), ("u", "underline"), ("uu", "underline2")]

/-- The attribute that a word names. -/
def attributeNamed? (word : String) : Option String :=
  if attributeNames.contains word then some word else shortAttributes.lookup word

/-- What a description says about a style. -/
structure Style where
  /-- The attributes that it speaks of, and whether they are on; the last one first. -/
  attributes : List (String × Bool)
  /-- The colour of the text. -/
  colour : Option String
  /-- The colour of the ground. -/
  ground : Option String
  /-- The target of a link. -/
  link : Option String
  deriving DecidableEq, Repr

namespace Style

/-- The style of a text that nothing is said about. -/
def plain : Style := ⟨[], none, none, none⟩

/-- Whether a text is a given word with something in brackets behind it, and what that is. -/
def inBrackets? (word : String) (text : List Char) : Option (List Char) :=
  let start := word.toList ++ ['(']
  if start.isPrefixOf text ∧ text.getLast? = some ')' ∧ start.length < text.length then
    some (text.drop start.length).dropLast
  else none

/-- The number that digits of any script denote; there has to be one. -/
def component (ds : List Char) : Except StyleProblem Nat :=
  if ds.isEmpty then .error .noDigits
  else .ok (ds.foldl (fun n c => 10 * n + (Text.decimalDigit? c).getD 0) 0)

/-- Checks a colour that three numbers give, none of which may be above 255. -/
def checkComponents (inner : List Char) : Except StyleProblem Unit := do
  unless !inner.isEmpty && inner.all fun c => c == ',' || Text.isDecimalDigit c do throw .wording
  match Text.splitWhere (· == ',') inner with
  | [red, green, blue] =>
    let numbers ← [red, green, blue].mapM component
    unless numbers.all (· ≤ 255) do throw .wording
  | _ => throw .wording

/-- Whether a text in lower case gives a colour by a number sign and six hexadecimal digits. -/
def isHexColour : List Char → Bool
  | '#' :: ds =>
    ds.length == 6 && ds.all fun c => Text.isAsciiDigit c || ('a' ≤ c && c ≤ 'f')
  | _ => false

/-- Whether up to three digits give the number of a colour. -/
def isColourNumber (ds : List Char) : Bool :=
  !ds.isEmpty && ds.length ≤ 3 && ds.all Text.isAsciiDigit && ofDigits ds ≤ 255

/-- The colour that a word names: by its name, by the number that it has, or by its red, green and
blue parts. -/
def colourNamed (word : String) : Except StyleProblem String :=
  let name := Text.lowerString word
  let text := name.toList
  if name = "default" ∨ colourNames.contains name ∨ isHexColour text then .ok name
  else
    match inBrackets? "color" text, inBrackets? "rgb" text with
    | some ds, _ => if isColourNumber ds then .ok name else .error .wording
    | none, some inner => (checkComponents inner).map fun _ => name
    | none, none => .error .wording

/-- A style with what further words say about it. -/
def readWords (style : Style) : List String → Except StyleProblem Style
  | [] => .ok style
  | spelling :: rest =>
    let word := Text.lowerString spelling
    if word = "on" then
      match rest with
      | [] => .error .wording
      | next :: rest =>
        (colourNamed next).bind fun colour => readWords { style with ground := some colour } rest
    else if word = "not" then
      match rest with
      | [] => .error .wording
      | next :: rest =>
        match attributeNamed? next with
        | none => .error .wording
        | some name =>
          readWords { style with attributes := (name, false) :: style.attributes } rest
    else if word = "link" then
      match rest with
      | [] => .error .wording
      | next :: rest => readWords { style with link := some next } rest
    else
      match attributeNamed? word with
      | some name => readWords { style with attributes := (name, true) :: style.attributes } rest
      | none =>
        (colourNamed word).bind fun colour => readWords { style with colour := some colour } rest

/-- The style that a text describes; `none` describes the plain one. -/
def ofText (text : String) : Except StyleProblem Style :=
  let words := (Text.words text.toList).map String.ofList
  if words = ["none"] ∨ text.isEmpty then .ok plain else readWords plain words

/-- The words of the normal form. -/
def words (style : Style) : List String :=
  (attributeNames.flatMap fun name =>
    match style.attributes.lookup name with
    | some true => [name]
    | some false => ["not", name]
    | none => []) ++
  style.colour.toList ++
  (match style.ground with | some colour => ["on", colour] | none => []) ++
  (match style.link with | some target => ["link", target] | none => [])

/-- The normal form of a description. -/
def text (style : Style) : String :=
  if style.words.isEmpty then "none" else " ".intercalate style.words

end Style

/-- The normal form of a text, whether it describes a style or not. -/
def normalStyle (text : String) : Except StyleProblem String :=
  match Style.ofText text with
  | .ok style => .ok style.text
  | .error .wording => .ok (Text.lowerString (String.ofList (Text.trim text.toList)))
  | .error .noDigits => .error .noDigits

end StyleTokens.Terminal
