import StyleTokens.Number.Basic
import StyleTokens.Record
import StyleTokens.Text.Blank
import StyleTokens.Text.Character
import StyleTokens.Token.Side

/-!
# Breakpoints and the spacing scale

A breakpoint is a width from which on its classes apply; breakpoints are put in the order of the
number that their width begins with. A spacing scale is a list of sizes, led by the size zero.
-/

namespace StyleTokens

/-- A named least width. -/
structure Breakpoint where
  /-- What class names for it begin with. -/
  slug : String
  /-- The name shown to people. -/
  name : String
  /-- The least width, as a length. -/
  value : String
  deriving DecidableEq, Repr

/-- Whether a breakpoint applies at every width. -/
def Breakpoint.isBase (breakpoint : Breakpoint) : Bool := breakpoint.slug == baseBreakpoint

/-- The breakpoint of the given fields. -/
def Breakpoint.ofFields (fields : Value.Entries) : Except Fault Breakpoint :=
  (((Checked.requiredText fields "slug").map Breakpoint.mk).apply
    (Checked.textOr fields "name" "")).apply (Checked.textOr fields "value" "0") |>.toExcept

/-- The digits that a text begins with, as ASCII digits. -/
def leadingDigits (text : List Char) : List Char × List Char :=
  (text.takeWhile Text.isDecimalDigit |>.map fun c => Nat.digitChar ((Text.decimalDigit? c).getD 0),
    text.dropWhile Text.isDecimalDigit)

/-- The number that a width begins with, behind blanks; without one it is zero. -/
def numericWidth (width : String) : Binary64 :=
  let text := Text.trimStart width.toList
  let negative := text.head? == some '-'
  let (whole, rest) := leadingDigits (if negative then text.drop 1 else text)
  if whole.isEmpty then Binary64.zero
  else
    let fraction := match rest with
      | '.' :: after => (leadingDigits after).1
      | _ => []
    Decimal.toBinary64 negative ⟨ofDigits (whole ++ fraction), -(fraction.length : Int)⟩

/-- Whether a breakpoint's width is no more than another's. -/
def Breakpoint.noWider (a b : Breakpoint) : Bool :=
  (Number.float (numericWidth a.value)).le (.float (numericWidth b.value))

/-- The breakpoints other than the base, narrowest first; those of one width keep their order. -/
def sortBreakpoints (breakpoints : List Breakpoint) : List Breakpoint :=
  (breakpoints.filter fun breakpoint => !breakpoint.isBase).mergeSort Breakpoint.noWider

/-- A step of the spacing scale. -/
structure SpacingSize where
  /-- What class names for it end with. -/
  slug : String
  /-- The name shown to people. -/
  name : String
  /-- The size, as a length. -/
  size : String
  deriving DecidableEq, Repr

namespace SpacingSize

/-- The size of the given fields. -/
def ofFields (fields : Value.Entries) : Except Fault SpacingSize :=
  (((Checked.requiredText fields "slug").map SpacingSize.mk).apply
    (Checked.requiredText fields "name")).apply (Checked.requiredText fields "size") |>.toExcept

/-- The step of no space at all. -/
def zero : SpacingSize := ⟨"0", "None", "0"⟩

/-- The name of a size that has none of its own. -/
def defaultName (slug : String) : String := "Size " ++ slug

/-- The size that unchecked data gives: a map with a slug and a size, both taken as text. -/
def ofValue? : Value → Option SpacingSize
  | .map entries =>
    match Value.Entries.get? entries "slug", Value.Entries.get? entries "size" with
    | some slug, some size =>
      let name := Value.Entries.get entries "name"
      some ⟨slug.display, if name.truthy then name.display else defaultName slug.display,
        size.display⟩
    | _, _ => none
  | _ => none

/-- Sizes led by zero: the step is put in front if no size has the slug `0`. -/
def withZero (sizes : List SpacingSize) : List SpacingSize :=
  if sizes.any fun size => size.slug == zero.slug then sizes else zero :: sizes

/-- The scale that unchecked data gives; what is no size is passed over. -/
def scaleOfValues (values : List Value) : List SpacingSize := withZero (values.filterMap ofValue?)

end SpacingSize

/-- A size as it may be given: as a step of a scale, or as unchecked data for one. -/
inductive GivenSize where
  /-- A step. -/
  | step (given : SpacingSize)
  /-- Unchecked data. -/
  | data (given : Value)

namespace GivenSize

/-- The step that is given, if there is one. -/
def size? : GivenSize → Option SpacingSize
  | .step given => some given
  | .data given => SpacingSize.ofValue? given

/-- The steps that are given; what is none is passed over. -/
def sizes (given : List GivenSize) : List SpacingSize := given.filterMap size?

/-- The scale of sizes, some of which may be given as unchecked data. -/
def scale (given : List GivenSize) : List SpacingSize := SpacingSize.withZero (sizes given)

end GivenSize

end StyleTokens
