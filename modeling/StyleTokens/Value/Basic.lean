import StyleTokens.Number.Basic
import StyleTokens.Time.Calendar

/-!
# Values

Configuration, preset properties and token entries arrive as data whose shape nobody has checked:
scalars, lists, and maps that keep the order of their entries. Keys are scalars, since a document
may use numbers or booleans as keys.
-/

namespace StyleTokens

/-- A value without parts. -/
inductive Scalar where
  /-- No value. -/
  | null
  /-- A truth value. -/
  | bool (b : Bool)
  /-- A number. -/
  | num (n : Number)
  /-- A text. -/
  | str (s : String)
  /-- A day, a time of day, or both. -/
  | calendar (time : CalendarTime)
  deriving DecidableEq, Inhabited

/-- Unchecked data. -/
inductive Value where
  /-- A value without parts. -/
  | scalar (s : Scalar)
  /-- A list. -/
  | list (items : List Value)
  /-- A map, its entries in order. -/
  | map (entries : List (Scalar × Value))
  deriving Inhabited

/-- The sorts of value that messages name. -/
inductive Kind where
  /-- No value. -/
  | null
  /-- A truth value. -/
  | bool
  /-- A whole number. -/
  | int
  /-- A double. -/
  | float
  /-- A text. -/
  | str
  /-- A list. -/
  | list
  /-- A map. -/
  | map
  /-- A day. -/
  | day
  /-- A time of day. -/
  | clock
  /-- A time on a day. -/
  | moment
  deriving DecidableEq, Repr

/-- The short name of a sort in a message. -/
def Kind.shortName : Kind → String
  | .null => "NoneType"
  | .bool => "bool"
  | .int => "int"
  | .float => "float"
  | .str => "str"
  | .list => "list"
  | .map => "dict"
  | .day => "date"
  | .clock => "time"
  | .moment => "datetime"

/-- The name of a sort in a message. -/
def Kind.name : Kind → String
  | .day => "datetime.date"
  | .clock => "datetime.time"
  | .moment => "datetime.datetime"
  | kind => kind.shortName

/-- The sort of a scalar. -/
def Scalar.kind : Scalar → Kind
  | .null => .null
  | .bool _ => .bool
  | .num (.int _) => .int
  | .num (.float _) => .float
  | .str _ => .str
  | .calendar (.day _) => .day
  | .calendar (.clock _) => .clock
  | .calendar (.moment ..) => .moment

/-- A truth value counts as one or zero where a number is compared. -/
def Scalar.number? : Scalar → Option Number
  | .bool b => some (.int (if b then 1 else 0))
  | .num n => some n
  | _ => none

/-- Whether two scalars are the same key: texts by their characters, numbers and truth values by
their values. -/
def Scalar.sameKey (a b : Scalar) : Bool :=
  match a.number?, b.number? with
  | some m, some n => m.equals n
  | none, none => a == b
  | _, _ => false

/-- Whether a scalar counts as true: all but null, false, zero and the empty text do. -/
def Scalar.truthy : Scalar → Bool
  | .null => false
  | .bool b => b
  | .num n => !n.isZero
  | .str s => !s.isEmpty
  | .calendar _ => true

namespace Value

/-- No value. -/
abbrev null : Value := .scalar .null

/-- A truth value. -/
abbrev bool (b : Bool) : Value := .scalar (.bool b)

/-- A number. -/
abbrev num (n : Number) : Value := .scalar (.num n)

/-- A whole number. -/
abbrev int (n : Int) : Value := .scalar (.num (.int n))

/-- A double. -/
abbrev float (x : Binary64) : Value := .scalar (.num (.float x))

/-- A text. -/
abbrev str (s : String) : Value := .scalar (.str s)

/-- The entries of a map. -/
abbrev Entries := List (Scalar × Value)

/-- The sort of a value. -/
def kind : Value → Kind
  | .scalar s => s.kind
  | .list _ => .list
  | .map _ => .map

/-- Whether a value counts as true: all but null, false, zero and what is empty do. -/
def truthy : Value → Bool
  | .scalar s => s.truthy
  | .list items => !items.isEmpty
  | .map entries => !entries.isEmpty

/-- A text, or nothing. -/
def optional : Option String → Value
  | some s => .str s
  | none => .null

/-- The text that a value is. -/
def text? : Value → Option String
  | .scalar (.str s) => some s
  | _ => none

/-- The entries that a value has when it is a map. -/
def entries? : Value → Option Entries
  | .map entries => some entries
  | _ => none

/-- A map whose keys are texts. -/
def ofFields (fields : List (String × Value)) : Value :=
  .map (fields.map fun (name, value) => (.str name, value))

namespace Entries

/-- The value at a key. -/
def find? (entries : Entries) (key : Scalar) : Option Value :=
  (List.find? (fun entry => entry.1.sameKey key) entries).map (·.2)

/-- The value at a text key. -/
def get? (entries : Entries) (name : String) : Option Value :=
  entries.find? (.str name)

/-- The value at a text key; null when there is none. -/
def get (entries : Entries) (name : String) : Value :=
  (entries.get? name).getD .null

/-- Whether a text is a key. -/
def has (entries : Entries) (name : String) : Bool :=
  (entries.get? name).isSome

/-- A value put at a key: an earlier one is replaced where it stands, a new key comes last. -/
def insert (entries : Entries) (key : Scalar) (value : Value) : Entries :=
  match entries with
  | [] => [(key, value)]
  | (k, v) :: rest =>
    if k.sameKey key then (k, value) :: rest else (k, v) :: Entries.insert rest key value

/-- Entries given in order, a repeated key keeping its first place and its last value. -/
def ofPairs (pairs : List (Scalar × Value)) : Entries :=
  pairs.foldl (fun entries (key, value) => entries.insert key value) []

end Entries

end Value

mutual

/-- Whether two values are equal: numbers and truth values by value, lists in order, maps
regardless of the order of their entries. -/
def Value.equals : Value → Value → Bool
  | .scalar a, .scalar b => a.sameKey b
  | .list xs, .list ys => Value.equalItems xs ys
  | .map xs, .map ys => xs.length == ys.length && Value.includedIn xs ys
  | _, _ => false

/-- Whether two lists are equal item by item. -/
def Value.equalItems : List Value → List Value → Bool
  | [], [] => true
  | x :: xs, y :: ys => x.equals y && Value.equalItems xs ys
  | _, _ => false

/-- Whether every entry stands, with an equal value, among the others. -/
def Value.includedIn : List (Scalar × Value) → List (Scalar × Value) → Bool
  | [], _ => true
  | (key, x) :: rest, ys =>
    (match Value.Entries.find? ys key with
      | some y => x.equals y
      | none => false) && Value.includedIn rest ys

end

end StyleTokens
