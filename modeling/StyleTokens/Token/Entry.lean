import StyleTokens.Number.StyleText
import StyleTokens.Token.Side

/-!
# Token entries

One breakpoint's configuration for one style category is a bare value or a map whose `type` says
which sides it speaks of. Reading unchecked data gives an entry, finds nothing, or reports why the
data is malformed; each entry denotes its present side values in the order of sides.
-/

namespace StyleTokens

/-- A side value as read: not there, there, or of a sort that no side value has. -/
inductive SideReading where
  /-- Null, false and the empty text stand for no value. -/
  | absent
  /-- A text, or a number as text. -/
  | present (text : String)
  /-- The reason why the data is no side value. -/
  | refused (reason : String)
  deriving DecidableEq, Repr

/-- Reads a side value. -/
def SideReading.ofValue : Value → Except Fault SideReading
  | .scalar .null => .ok .absent
  | .scalar (.bool false) => .ok .absent
  | .scalar (.bool true) => .ok (.refused "boolean is not a valid side value")
  | .scalar (.num n) => n.styleText.map fun text => .present (String.ofList text)
  | .scalar (.str s) => .ok (if s.isEmpty then .absent else .present s)
  | value => .ok (.refused ("unsupported side value type: " ++ value.kind.shortName))

/-- The value that was read, if one was there. -/
def SideReading.value? : SideReading → Option String
  | .present text => some text
  | _ => none

/-- The shapes of an entry that is a map, by the word in its `type`. -/
inductive EntryShape where
  /-- One value for all sides. -/
  | all
  /-- A value for each axis. -/
  | split
  /-- A value for each side. -/
  | sides
  deriving DecidableEq, Repr

namespace EntryShape

/-- Every shape. -/
def order : List EntryShape := [.all, .split, .sides]

/-- The word that names a shape. -/
def name : EntryShape → String
  | .all => "all"
  | .split => "split"
  | .sides => "sides"

/-- The fields of a shape, in order, each with the side that it sets. -/
def fields : EntryShape → List (String × Side)
  | .all => [("value", .all)]
  | .split => [("x", .x), ("y", .y)]
  | .sides => [("top", .top), ("right", .right), ("bottom", .bottom), ("left", .left)]

/-- The shape with a name. -/
def ofName? (name : String) : Option EntryShape := order.find? fun shape => shape.name == name

end EntryShape

/-- A token entry. -/
inductive TokenEntry where
  /-- A bare value, applied to all sides. -/
  | bare (value : String)
  /-- A value for all sides. -/
  | all (value : Option String)
  /-- A value for each axis. -/
  | split (x y : Option String)
  /-- A value for each side. -/
  | sides (top right bottom left : Option String)
  deriving DecidableEq, Repr

/-- The side values that are set, in the order of sides. -/
abbrev Sides := List (Side × String)

namespace TokenEntry

/-- What an entry says of each side. -/
def valueAt : TokenEntry → Side → Option String
  | .bare value, .all => some value
  | .all value, .all => value
  | .split x _, .x => x
  | .split _ y, .y => y
  | .sides top _ _ _, .top => top
  | .sides _ right _ _, .right => right
  | .sides _ _ bottom _, .bottom => bottom
  | .sides _ _ _ left, .left => left
  | _, _ => none

/-- The side values of an entry that are set and not empty, in the order of sides. -/
def present (entry : TokenEntry) : Sides :=
  Side.order.filterMap fun side =>
    match entry.valueAt side with
    | some value => if value.isEmpty then none else some (side, value)
    | none => none

/-- The entry of a shape with the given field values, in the order of its fields. -/
def ofShape (shape : EntryShape) (values : List (Option String)) : TokenEntry :=
  let nth (i : Nat) : Option String := (values[i]?).join
  match shape with
  | .all => .all (nth 0)
  | .split => .split (nth 0) (nth 1)
  | .sides => .sides (nth 0) (nth 1) (nth 2) (nth 3)

end TokenEntry

/-- Reads the fields of a shape from a map. -/
def EntryShape.readFields (shape : EntryShape) (entries : Value.Entries) :
    Except Fault (List (String × SideReading)) :=
  shape.fields.mapM fun (field, _) =>
    (SideReading.ofValue (entries.get field)).map fun reading => (field, reading)

/-- The fields that were refused, each with the reason. -/
def refusedFields (readings : List (String × SideReading)) : List (String × String) :=
  readings.filterMap fun (field, reading) =>
    match reading with
    | .refused reason => some (field, reason)
    | _ => none

/-- An entry as read. -/
inductive EntryReading where
  /-- There is nothing to read. -/
  | absent
  /-- An entry. -/
  | found (entry : TokenEntry)
  /-- The reason why the data is no entry. -/
  | malformed (reason : String)
  deriving DecidableEq, Repr

/-- The side values that a reading denotes; malformed data denotes none. -/
def EntryReading.sides : EntryReading → Sides
  | .found entry => entry.present
  | _ => []

/-- The reason why data is malformed, if it is. -/
def EntryReading.problem? : EntryReading → Option String
  | .malformed reason => some reason
  | _ => none

/-- Reads a map of a known shape; the first field that is refused makes it malformed. -/
def EntryReading.ofShape (shape : EntryShape) (entries : Value.Entries) :
    Except Fault EntryReading :=
  (shape.readFields entries).map fun readings =>
    match refusedFields readings with
    | (field, reason) :: _ =>
      .malformed (shape.name ++ "." ++ field ++ ": " ++ (FieldProblem.notSide reason).message)
    | [] => .found (.ofShape shape (readings.map (·.2.value?)))

/-- Reads a map by the word in its `type`. -/
def EntryReading.ofEntries (entries : Value.Entries) : Except Fault EntryReading :=
  match entries.get? "type" with
  | none => .ok (.malformed "entry: Unable to extract tag using discriminator 'type'")
  | some tag =>
    match tag.text?.bind EntryShape.ofName? with
    | some shape => EntryReading.ofShape shape entries
    | none =>
      .ok (.malformed ("entry: Input tag '" ++ tag.display ++
        "' found using 'type' does not match any of the expected tags: " ++
        ", ".intercalate (EntryShape.order.map fun shape => "'" ++ shape.name ++ "'")))

/-- Reads unchecked data. Null, false, the empty text and the empty map are nothing to read. -/
def EntryReading.ofValue : Value → Except Fault EntryReading
  | .map [] => .ok .absent
  | .map entries => EntryReading.ofEntries entries
  | value =>
    (SideReading.ofValue value).map fun reading =>
      match reading with
      | .absent => .absent
      | .present text => .found (.bare text)
      | .refused reason => .malformed reason

/-- The side values that unchecked data denotes. -/
def normalize (raw : Value) : Except Fault Sides :=
  (EntryReading.ofValue raw).map EntryReading.sides

/-- What side values are asked of: unchecked data, or an entry that was read before. -/
inductive EntrySource where
  /-- Unchecked data. -/
  | data (raw : Value)
  /-- An entry. -/
  | entry (entry : TokenEntry)

/-- A reading as something to ask for side values; what is not there is null. -/
def EntryReading.source : EntryReading → EntrySource
  | .found entry => .entry entry
  | _ => .data .null

/-- Reads unchecked data; an entry is itself. -/
def EntryReading.ofSource : EntrySource → Except Fault EntryReading
  | .data raw => EntryReading.ofValue raw
  | .entry entry => .ok (.found entry)

/-- The side values of unchecked data or of an entry. -/
def EntrySource.sides (source : EntrySource) : Except Fault Sides :=
  (EntryReading.ofSource source).map EntryReading.sides

end StyleTokens
