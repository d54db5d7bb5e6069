import StyleTokens.ClassName.Basic
import StyleTokens.ClassName.Responsive
import StyleTokens.Utility.Scale

/-!
# The sheet of utility rules

For every class name that a token can compile to there is a rule that sets the properties the name
stands for. The rules come category by category, side by side and size by size, first for all
widths, then once more for every breakpoint inside a media query.
-/

namespace StyleTokens

/-- The properties that a value for a side sets. A gap has no single sides. -/
def sideProperties : StyleCategory → Side → List String
  | .gap, .all => ["gap"]
  | .gap, .x => ["column-gap"]
  | .gap, .y => ["row-gap"]
  | .gap, _ => []
  | category, side => (boxParts side).map (category.name ++ ·)
where
  /-- What follows the name of a box property for each side that is meant. -/
  boxParts : Side → List String
    | .all => [""]
    | .x => ["-left", "-right"]
    | .y => ["-top", "-bottom"]
    | .top => ["-top"]
    | .right => ["-right"]
    | .bottom => ["-bottom"]
    | .left => ["-left"]

/-- The value of a size: zero, or the custom property of the size with the length as fallback. -/
def SpacingSize.value (size : SpacingSize) (variableStem : String) : String :=
  if size.slug = "0" ∨ size.size = "0" then "0"
  else "var(" ++ variableStem ++ size.slug ++ ", " ++ size.size ++ ")"

/-- A rule of the sheet. -/
structure UtilityRule where
  /-- The class that an element must have besides, if any. -/
  marker : Option String
  /-- The class whose elements the rule styles. -/
  className : String
  /-- The properties that it sets. -/
  properties : List String
  /-- The value that it gives to them all. -/
  value : String
  deriving DecidableEq, Repr

/-- A class name as part of a selector: a backslash before each colon. -/
def escapeSelector (name : String) : String :=
  String.ofList (name.toList.flatMap fun c => if c = ':' then ['\\', ':'] else [c])

namespace UtilityRule

/-- The selector of a rule. -/
def selector (rule : UtilityRule) : String :=
  (match rule.marker with
    | some marker => "." ++ marker
    | none => "") ++ "." ++ escapeSelector rule.className

/-- The declarations of a rule. -/
def body (rule : UtilityRule) : String :=
  " ".intercalate (rule.properties.map fun property => property ++ ": " ++ rule.value ++ ";")

/-- A rule on a line of its own. -/
def line (indent : String) (rule : UtilityRule) : String :=
  indent ++ rule.selector ++ " \x7b " ++ rule.body ++ " \x7d"

end UtilityRule

/-- The rules of one side of a category at a breakpoint. -/
def sideRules (slug variableStem : String) (sizes : List SpacingSize) (category : StyleCategory)
    (side : Side) : List UtilityRule :=
  match sideProperties category side with
  | [] => []
  | properties => sizes.map fun size =>
    ⟨category.marker?, className category.stem slug side size.slug, properties,
      size.value variableStem⟩

/-- The rules at a breakpoint. -/
def rulesAt (slug variableStem : String) (sizes : List SpacingSize)
    (categories : List StyleCategory) : List UtilityRule :=
  categories.flatMap fun category =>
    Side.order.flatMap (sideRules slug variableStem sizes category)

/-- The rules that apply from a width on, or at every width. -/
structure UtilitySection where
  /-- The least width, if there is one. -/
  width : Option String
  /-- The rules. -/
  rules : List UtilityRule
  deriving DecidableEq, Repr

/-- The sections of the sheet: all widths, then the breakpoints, narrowest first. -/
def utilitySections (sizes : List SpacingSize) (breakpoints : List Breakpoint)
    (categories : List StyleCategory) (variableStem : String) : List UtilitySection :=
  ⟨none, rulesAt baseBreakpoint variableStem sizes categories⟩ ::
    (sortBreakpoints breakpoints).map fun breakpoint =>
      ⟨some breakpoint.value, rulesAt breakpoint.slug variableStem sizes categories⟩

/-- A section as text. -/
def UtilitySection.text (part : UtilitySection) : String :=
  match part.width with
  | none => "\n".intercalate (part.rules.map (UtilityRule.line ""))
  | some width =>
    "@media (min-width: " ++ width ++ ") \x7b\n" ++
      "\n".intercalate (part.rules.map (UtilityRule.line "    ")) ++ "\n\x7d"

/-- The sheet as text, sections with blank lines between them. -/
def utilityText (sections : List UtilitySection) : String :=
  "\n\n".intercalate (sections.map UtilitySection.text) ++ "\n"

/-- The beginning of the custom properties of sizes unless another is given. -/
def defaultVariableStem : String := "--spacing--"

/-- The utility sheet of a scale that is led by zero; a scale that nothing was given for has
none. -/
def utilitySheet (sizes : List SpacingSize) (breakpoints : List Breakpoint)
    (categories : List StyleCategory) (variableStem : String) : String :=
  if sizes.isEmpty then ""
  else
    utilityText
      (utilitySections (SpacingSize.withZero sizes) breakpoints categories variableStem)

/-- The utility sheet of a scale some of whose sizes may be given as unchecked data. -/
def GivenSize.sheet (given : List GivenSize) (breakpoints : List Breakpoint)
    (categories : List StyleCategory) (variableStem : String) : String :=
  if given.isEmpty then ""
  else utilityText (utilitySections (scale given) breakpoints categories variableStem)

/-- The utility sheet of an unchecked scale, for unchecked categories. -/
def utilitySheetOfValues (sizes : List Value) (breakpoints : List Breakpoint)
    (categories : List Value) (variableStem : String) : Except Fault String :=
  if sizes.isEmpty then .ok ""
  else do
    let known ← categories.mapM categoryOfValue
    return utilityText
      (utilitySections (SpacingSize.scaleOfValues sizes) breakpoints known variableStem)

end StyleTokens
