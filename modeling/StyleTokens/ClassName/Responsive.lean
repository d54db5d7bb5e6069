import StyleTokens.ClassName.Basic
import StyleTokens.Noted
import StyleTokens.Text.Blank
import StyleTokens.Value.Items

/-!
# Responsive classes

A responsive value maps breakpoints to token entries. Its classes are written breakpoint by
breakpoint, in the order asked for, and side by side within one; malformed entries are noted and
skipped. The gap category marks its element with one further class in front, and so does any
spacing at all.

Classes are appended to the class attribute that an element already has. Nothing is removed: the
white-space separated words of the result are those of the attribute, then those of the classes.
-/

namespace StyleTokens

/-- A malformed entry that was skipped. -/
structure Malformed where
  /-- The entry's data. -/
  raw : Value
  /-- Why it is no entry. -/
  reason : String

/-- The keys without repetitions, each at its first place. -/
def distinctKeys (keys : List Scalar) : List Scalar :=
  keys.foldl (fun seen key => if seen.any (·.sameKey key) then seen else seen ++ [key]) []

/-- The keys of a map in the order asked for: those that are listed, in the order of the list,
then the others in their own. -/
def orderedKeys (keys order : List Scalar) : List Scalar :=
  let listed := (distinctKeys order).filter fun key => keys.any (·.sameKey key)
  listed ++ keys.filter fun key => !listed.any (·.sameKey key)

/-- The keys that a list of unchecked items holds. -/
def keysOfItems (items : List Value) : Except Fault (List Scalar) :=
  items.mapM fun item =>
    match item with
    | .scalar key => .ok key
    | other => .error (.unhashable other.kind)

/-- The breakpoint order that unchecked data gives; nothing gives none, a text its characters. -/
def breakpointOrder (order : Value) : Except Fault (List Scalar) :=
  if !order.truthy then .ok []
  else
    match order with
    | .list items => keysOfItems items
    | .map entries => .ok (entries.map (·.1))
    | .scalar (.str s) => .ok (s.toList.map fun c => .str (String.ofList [c]))
    | other => .error (.notIterable other.kind)

/-- The breakpoints of an unchecked map in the order asked for. -/
def orderedBreakpoints (valueMap order : Value) : Except Fault (List Scalar) :=
  match valueMap with
  | .map entries => (breakpointOrder order).map (orderedKeys (entries.map (·.1)))
  | other => .error (.noOperation other.kind "keys")

/-- The side values of one entry; a malformed one is noted. -/
def notedSides (raw : Value) : Noted Malformed Sides := do
  let reading ← Noted.quiet (EntryReading.ofValue raw)
  match reading.problem? with
  | some reason => Noted.note ⟨raw, reason⟩
  | none => pure ()
  return reading.sides

/-- The classes of one entry. -/
def entryClasses (category : StyleCategory) (slug : String) (sides : Sides) : List String :=
  sides.map fun (side, value) => className category.stem slug side value

/-- Classes with the category's marker in front, if there are any and it has one. -/
def withMarker (category : StyleCategory) (classes : List String) : List String :=
  match category.marker?, classes with
  | _, [] => []
  | some marker, classes => marker :: classes
  | none, classes => classes

/-- The classes of the entries at the given breakpoints, in that order. -/
def classesAt (category : StyleCategory) (entries : Value.Entries) :
    List Scalar → Noted Malformed (List String)
  | [] => .result []
  | slug :: rest => do
    let sides ← notedSides ((entries.find? slug).getD .null)
    let others ← classesAt category entries rest
    return entryClasses category slug.display sides ++ others

/-- The classes of a responsive value. -/
def responsiveClasses (category : StyleCategory) (entries : Value.Entries) (order : List Scalar) :
    Noted Malformed (List String) := do
  let classes ← classesAt category entries (orderedKeys (entries.map (·.1)) order)
  return withMarker category classes

/-- The category that unchecked data names. -/
def categoryOfValue (category : Value) : Except Fault StyleCategory :=
  match category.text?.bind StyleCategory.ofName? with
  | some known => .ok known
  | none => .error (.unknownCategory category.literalString)

/-- The classes of an unchecked responsive value; what is no map, or an empty one, has none. -/
def responsiveClassesOfValue (category : StyleCategory) (valueMap order : Value) :
    Noted Malformed (List String) :=
  match valueMap with
  | .map (entry :: entries) => do
    let slugs ← Noted.quiet (breakpointOrder order)
    responsiveClasses category (entry :: entries) slugs
  | _ => .result []

/-- The same for a category that is unchecked too; it matters only for a map with entries. -/
def compileResponsive (category valueMap order : Value) : Noted Malformed (List String) :=
  match valueMap with
  | .map (_ :: _) => do
    let known ← Noted.quiet (categoryOfValue category)
    responsiveClassesOfValue known valueMap order
  | _ => .result []

/-- The class that marks an element with any spacing. -/
def spacingMarker : String := "has-spacing"

/-- The classes of one element's gap, padding and margin. -/
def spacingClasses (attributes : Value.Entries) (order : Value) :
    Noted Malformed (List String) := do
  let classes ← StyleCategory.order.mapM fun category =>
    responsiveClassesOfValue category (attributes.get category.name) order
  return match classes.flatten with
    | [] => []
    | all => spacingMarker :: all

/-- Class names as the text of an attribute. -/
def joinClasses (classes : List String) : String := " ".intercalate classes

/-- The classes of one element's unchecked attributes, as text. -/
def compileSpacing (attributes order : Value) : Noted Malformed String :=
  if !attributes.truthy then .result ""
  else
    match attributes with
    | .map entries => do
      let classes ← spacingClasses entries order
      return joinClasses classes
    | other => .quiet (.error (.noOperation other.kind "get"))

/-! ### Attributes -/

/-- An attribute followed by further classes, without blanks at either end. -/
def appendClasses (existing addition : String) : String :=
  String.ofList (Text.trim (existing ++ " " ++ addition).toList)

/-- Unchecked classes as one text: a text as it is, items that count as true joined by spaces. -/
def additionOfValue (classes : Value) : Except Fault String :=
  match classes with
  | .scalar (.str s) => .ok s
  | other => do
    let items ← itemsOfValue other
    let texts ← textItems 0 (items.filter Value.truthy)
    return joinClasses texts

/-- An unchecked attribute as text; what counts as false is empty. -/
def attributeOfValue (existing : Value) : String :=
  if existing.truthy then existing.display else ""

/-- Unchecked classes appended to an unchecked attribute. -/
def appendClassesOfValues (existing classes : Value) : Except Fault String := do
  let addition ← additionOfValue classes
  return appendClasses (attributeOfValue existing) addition

end StyleTokens
