import StyleTokens.Text.Character
import StyleTokens.Text.Hex
import StyleTokens.Text.PrintableTable

/-!
# Quoted text

A text shown inside a message or a structure is quoted: in single quotes unless it holds a single
quote and no double one, with the quote in use, the backslash and every unprintable character
escaped.
-/

namespace StyleTokens.Text

/-- Whether a character is written as it is. -/
def isPrintable (c : Char) : Bool := !inRanges unprintableRanges c.toNat

/-- A character as it stands between the given quotes. -/
def quotedChar (quote c : Char) : List Char :=
  if c = quote ∨ c = '\\' then ['\\', c]
  else if c = '\n' then ['\\', 'n']
  else if c = '\r' then ['\\', 'r']
  else if c = '\t' then ['\\', 't']
  else if isPrintable c then [c]
  else if c.toNat < 0x100 then '\\' :: 'x' :: hexDigits 2 c.toNat
  else if c.toNat < 0x10000 then '\\' :: 'u' :: hexDigits 4 c.toNat
  else '\\' :: 'U' :: hexDigits 8 c.toNat

/-- The quote that a text is put in. -/
def quoteFor (text : List Char) : Char :=
  if text.contains '\'' && !text.contains '"' then '"' else '\''

/-- A text in quotes. -/
def quoted (text : List Char) : List Char :=
  quoteFor text :: text.flatMap (quotedChar (quoteFor text)) ++ [quoteFor text]

/-- A text in quotes. -/
def quotedString (text : String) : String := String.ofList (quoted text.toList)

end StyleTokens.Text
