/-!
# Lines

A text file may end its lines with a line feed, a carriage return or both; once read, every line
ends with a line feed.
-/

namespace StyleTokens.Text

/-- Line endings of every kind turned into line feeds. -/
def unifyLines : List Char → List Char
  | [] => []
  | '\r' :: '\n' :: rest => '\n' :: unifyLines rest
  | '\r' :: rest => '\n' :: unifyLines rest
  | c :: rest => c :: unifyLines rest

/-- The parts of a list between the items that separate them; there is always at least one. -/
def splitWhere {α : Type} (separator : α → Bool) : List α → List (List α)
  | [] => [[]]
  | item :: rest =>
    if separator item then [] :: splitWhere separator rest
    else
      match splitWhere separator rest with
      | [] => [[item]]
      | part :: parts => (item :: part) :: parts

/-- The parts of a text between the occurrences of a character. -/
def splitString (separator : Char) (text : String) : List String :=
  (splitWhere (· == separator) text.toList).map String.ofList

end StyleTokens.Text
