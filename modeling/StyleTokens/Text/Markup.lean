/-!
# Markup characters

The characters that could end a style block or an attribute are removed from stylesheet text and
written as entities in attribute text.
-/

namespace StyleTokens.Text

/-- The characters that stylesheet text never holds. -/
def isMarkup (c : Char) : Bool := c == '<' || c == '>' || c == '"' || c == '\''

/-- The text without markup characters. -/
def stripMarkup (text : List Char) : List Char := text.filter fun c => !isMarkup c

/-- The text without markup characters. -/
def stripMarkupString (text : String) : String := String.ofList (stripMarkup text.toList)

/-- A character in attribute text. -/
def attributeChar (c : Char) : List Char :=
  if c = '&' then "&amp;".toList
  else if c = '<' then "&lt;".toList
  else if c = '>' then "&gt;".toList
  else if c = '"' then "&quot;".toList
  else if c = '\'' then "&#x27;".toList
  else [c]

/-- A text as the value of a double-quoted attribute. -/
def attributeText (text : List Char) : List Char := text.flatMap attributeChar

/-- A text as the value of a double-quoted attribute. -/
def attributeString (text : String) : String := String.ofList (attributeText text.toList)

end StyleTokens.Text
