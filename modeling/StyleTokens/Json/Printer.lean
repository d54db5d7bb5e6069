import StyleTokens.Text.Hex
import StyleTokens.Value.Basic

/-!
# Writing JSON

A document is written in one of several styles, which differ in what stands between items, in
whether characters beyond ASCII are escaped, and in indentation. Map entries are written in their
order; `sorted` puts them in the order of their keys beforehand.
-/

namespace StyleTokens.Json

/-- How a document is laid out. -/
structure Style where
  /-- What stands between two items. -/
  itemSeparator : String
  /-- What stands between a key and its value. -/
  keySeparator : String
  /-- Whether all but printable ASCII characters are escaped. -/
  ascii : Bool
  deriving DecidableEq, Repr

/-- No space, and characters beyond ASCII as they are: the form that keys are computed from. -/
def Style.canonical : Style := ⟨",", ":", false⟩

/-- Spaces after separators, and ASCII alone: the form that is stored and logged. -/
def Style.ascii7 : Style := ⟨", ", ": ", true⟩

/-- Spaces after separators, and characters beyond ASCII as they are: the form that is shown. -/
def Style.shown : Style := ⟨", ", ": ", false⟩

/-- One code unit as an escape. -/
def escapedUnit (unit : Nat) : List Char := '\\' :: 'u' :: Text.hexDigits 4 unit

/-- A character as its UTF-16 code units, each an escape. -/
def escapedChar (c : Char) : List Char :=
  if c.toNat < 0x10000 then escapedUnit c.toNat
  else
    escapedUnit (0xD800 + (c.toNat - 0x10000) / 0x400) ++
      escapedUnit (0xDC00 + (c.toNat - 0x10000) % 0x400)

/-- A character inside a string. -/
def stringChar (ascii : Bool) (c : Char) : List Char :=
  if c = '"' then ['\\', '"']
  else if c = '\\' then ['\\', '\\']
  else if c = '\n' then ['\\', 'n']
  else if c = '\r' then ['\\', 'r']
  else if c = '\t' then ['\\', 't']
  else if c = '\x0c' then ['\\', 'f']
  else if c = '\x08' then ['\\', 'b']
  else if c.toNat < 0x20 then escapedUnit c.toNat
  else if ascii && 0x7F ≤ c.toNat then escapedChar c
  else [c]

/-- A string in quotes. -/
def stringText (ascii : Bool) (text : List Char) : List Char :=
  '"' :: text.flatMap (stringChar ascii) ++ ['"']

/-- A scalar. -/
def scalarText (ascii : Bool) : Scalar → List Char
  | .null => "null".toList
  | .bool true => "true".toList
  | .bool false => "false".toList
  | .num n => n.text .json
  | .str s => stringText ascii s.toList
  | .calendar time => stringText ascii time.text.toList

/-- A key: a string, whatever scalar it is. -/
def keyText (ascii : Bool) : Scalar → List Char
  | .str s => stringText ascii s.toList
  | s => stringText ascii (scalarText ascii s)

mutual

/-- A value in one line. -/
def valueText (style : Style) : Value → List Char
  | .scalar s => scalarText style.ascii s
  | .list items => '[' :: itemsText style items ++ [']']
  | .map entries => '\x7b' :: entriesText style entries ++ ['\x7d']

/-- The items of a list, with separators between them. -/
def itemsText (style : Style) : List Value → List Char
  | [] => []
  | [item] => valueText style item
  | item :: rest => valueText style item ++ style.itemSeparator.toList ++ itemsText style rest

/-- The entries of a map, with separators between them. -/
def entriesText (style : Style) : List (Scalar × Value) → List Char
  | [] => []
  | [(key, value)] => keyText style.ascii key ++ style.keySeparator.toList ++ valueText style value
  | (key, value) :: rest =>
    keyText style.ascii key ++ style.keySeparator.toList ++ valueText style value ++
      style.itemSeparator.toList ++ entriesText style rest

end

/-- A value in one line. -/
def render (style : Style) (value : Value) : String := String.ofList (valueText style value)

/-- A line break and the indentation of a depth, two spaces a level. -/
def breakAt (depth : Nat) : List Char := '\n' :: List.replicate (2 * depth) ' '

mutual

/-- A value with every item of a list and every entry of a map on a line of its own. -/
def indentedText (depth : Nat) : Value → List Char
  | .scalar s => scalarText false s
  | .list [] => ['[', ']']
  | .list items => '[' :: indentedItems (depth + 1) items ++ breakAt depth ++ [']']
  | .map [] => ['\x7b', '\x7d']
  | .map entries => '\x7b' :: indentedEntries (depth + 1) entries ++ breakAt depth ++ ['\x7d']

/-- The items of a list, each on a line of its own. -/
def indentedItems (depth : Nat) : List Value → List Char
  | [] => []
  | [item] => breakAt depth ++ indentedText depth item
  | item :: rest => breakAt depth ++ indentedText depth item ++ ',' :: indentedItems depth rest

/-- The entries of a map, each on a line of its own. -/
def indentedEntries (depth : Nat) : List (Scalar × Value) → List Char
  | [] => []
  | [(key, value)] =>
    breakAt depth ++ keyText false key ++ ':' :: ' ' :: indentedText depth value
  | (key, value) :: rest =>
    breakAt depth ++ keyText false key ++ ':' :: ' ' :: indentedText depth value ++
      ',' :: indentedEntries depth rest

end

/-- A value over several lines. -/
def renderIndented (value : Value) : String := String.ofList (indentedText 0 value)

end StyleTokens.Json
