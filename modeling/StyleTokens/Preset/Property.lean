import StyleTokens.Fault
import StyleTokens.Keyed
import StyleTokens.Text.Case
import StyleTokens.Value.Display

/-!
# Style properties

A property has a canonical name: a hyphen before each capital letter, and all of it in lower case.
A bag of properties keeps its order; names that become one name become one property, which stands
where the first of them stood and has the value of the last.
-/

namespace StyleTokens

/-- Properties with their values, in order. -/
abbrev PropertyBag := Keyed Value

/-- A hyphen before each capital letter of ASCII. -/
def hyphenated (name : List Char) : List Char :=
  name.flatMap fun c => if 'A' ≤ c ∧ c ≤ 'Z' then ['-', c] else [c]

/-- The canonical name of a property. -/
def kebabCase (name : List Char) : List Char := Text.lower (hyphenated name)

/-- The canonical name of a property. -/
def canonicalProperty (name : String) : String := String.ofList (kebabCase name.toList)

/-- The canonical form of an unchecked name, which has to be a text. -/
def canonicalPropertyOfValue (name : Value) : Except Fault String :=
  match name.text? with
  | some text => .ok (canonicalProperty text)
  | none => .error (Fault.notText name.kind)

/-- Whether a character may stand in a property of a stylesheet. -/
def isPropertyChar (c : Char) : Bool :=
  ('a' ≤ c && c ≤ 'z') || ('0' ≤ c && c ≤ '9') || c == '-'

/-- The property that a name stands for in a stylesheet: its canonical name, when that holds
nothing but small letters, digits and hyphens. -/
def stylesheetProperty? (name : String) : Option String :=
  let canonical := canonicalProperty name
  if !canonical.isEmpty && canonical.toList.all isPropertyChar then some canonical else none

/-- The properties that a map holds, every key as text. -/
def bagOfEntries (entries : Value.Entries) : PropertyBag :=
  entries.map fun (key, value) => (key.display, value)

/-- A bag under canonical names. -/
def canonicalBag (bag : PropertyBag) : PropertyBag :=
  Keyed.ofList (bag.map fun (name, value) => (canonicalProperty name, value))

/-- The bag that unchecked data holds; what is no map holds none. -/
def canonicalBagOfValue : Value → PropertyBag
  | .map entries => canonicalBag (bagOfEntries entries)
  | _ => []

end StyleTokens
