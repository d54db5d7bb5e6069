/-!
# Sides and style categories

A token value belongs to all sides of a box, to an axis, or to a single side; it styles the gap,
the padding or the margin.
-/

namespace StyleTokens

/-- The part of a box that a value belongs to. -/
inductive Side where
  /-- Every side. -/
  | all
  /-- The horizontal axis. -/
  | x
  /-- The vertical axis. -/
  | y
  /-- The top side. -/
  | top
  /-- The right side. -/
  | right
  /-- The bottom side. -/
  | bottom
  /-- The left side. -/
  | left
  deriving DecidableEq, Repr

namespace Side

/-- Every side, in the order in which classes are written. -/
def order : List Side := [.all, .x, .y, .top, .right, .bottom, .left]

/-- The name of a side in configuration. -/
def name : Side → String
  | .all => "all"
  | .x => "x"
  | .y => "y"
  | .top => "top"
  | .right => "right"
  | .bottom => "bottom"
  | .left => "left"

/-- What a side adds to the abbreviation in a class name. -/
def suffix : Side → String
  | .all => ""
  | .x => "x"
  | .y => "y"
  | .top => "t"
  | .right => "r"
  | .bottom => "b"
  | .left => "l"

/-- The side with a name. -/
def ofName? (name : String) : Option Side := order.find? fun side => side.name == name

end Side

/-- What a responsive value styles. -/
inductive StyleCategory where
  /-- The gap between items. -/
  | gap
  /-- The space inside a box. -/
  | padding
  /-- The space around a box. -/
  | margin
  deriving DecidableEq, Repr

namespace StyleCategory

/-- Every category, in the order in which classes are written. -/
def order : List StyleCategory := [.gap, .padding, .margin]

/-- The name of a category in configuration; it is the style property too. -/
def name : StyleCategory → String
  | .gap => "gap"
  | .padding => "padding"
  | .margin => "margin"

/-- How class names begin. -/
def stem : StyleCategory → String
  | .gap => "gap"
  | .padding => "p"
  | .margin => "m"

/-- The class that marks an element with any value of this category. -/
def marker? : StyleCategory → Option String
  | .gap => some "has-gap"
  | _ => none

/-- The category with a name. -/
def ofName? (name : String) : Option StyleCategory :=
  order.find? fun category => category.name == name

end StyleCategory

/-- The slug of the breakpoint that applies at every width. -/
def baseBreakpoint : String := "base"

end StyleTokens
