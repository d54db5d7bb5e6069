import StyleTokens.Text.Quoted
import StyleTokens.Value.Basic

/-!
# Values as text

A value is displayed as a text by itself or as a literal inside a structure or a message; the two
differ only for texts, which a literal puts in quotes.
-/

namespace StyleTokens

/-- A scalar as a literal. -/
def Scalar.literal : Scalar → List Char
  | .null => "None".toList
  | .bool true => "True".toList
  | .bool false => "False".toList
  | .num n => n.text .display
  | .str s => Text.quoted s.toList
  | .calendar time => time.literal.toList

/-- A scalar by itself. -/
def Scalar.display : Scalar → String
  | .str s => s
  | .calendar time => time.text
  | s => String.ofList s.literal

mutual

/-- A value as a literal: lists in brackets and maps in braces, with literals inside. -/
def Value.literal : Value → List Char
  | .scalar s => s.literal
  | .list items => '[' :: Value.literalItems items ++ [']']
  | .map entries => '\x7b' :: Value.literalEntries entries ++ ['\x7d']

/-- Literals of items, separated by commas. -/
def Value.literalItems : List Value → List Char
  | [] => []
  | [item] => item.literal
  | item :: rest => item.literal ++ ',' :: ' ' :: Value.literalItems rest

/-- Literals of entries, separated by commas. -/
def Value.literalEntries : List (Scalar × Value) → List Char
  | [] => []
  | [(key, value)] => key.literal ++ ':' :: ' ' :: value.literal
  | (key, value) :: rest =>
    key.literal ++ ':' :: ' ' :: value.literal ++ ',' :: ' ' :: Value.literalEntries rest

end

/-- A value by itself. -/
def Value.display : Value → String
  | .scalar s => s.display
  | v => String.ofList v.literal

/-- A value as a literal. -/
def Value.literalString (value : Value) : String := String.ofList value.literal

end StyleTokens
