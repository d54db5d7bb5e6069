import StyleTokens.Text.CaseTable
import StyleTokens.Text.Character

/-!
# Letter case

Full case mapping of Unicode 14: some characters map to several, and a capital sigma at the end
of a word becomes the final small sigma.
-/

namespace StyleTokens.Text

/-- Whether a run holds a code point. -/
def CaseRun.contains (run : CaseRun) (code : Nat) : Bool :=
  run.first ≤ code && code ≤ run.last && (code - run.first) % run.step == 0

/-- The image of a character outside ASCII under a case table. -/
def caseImage (runs : List CaseRun) (expansions : List (Nat × List Nat)) (c : Char) : List Char :=
  match expansions.lookup c.toNat with
  | some codes => codes.map Char.ofNat
  | none =>
    match runs.find? (·.contains c.toNat) with
    | some run => [Char.ofNat (c.toNat + run.shift).toNat]
    | none => [c]

/-- The lower-case image of a character that stands alone. -/
def lowerChar (c : Char) : List Char :=
  if c.toNat < 0x80 then [c.toLower] else caseImage lowerRuns lowerExpansions c

/-- The upper-case image of a character. -/
def upperChar (c : Char) : List Char :=
  if c.toNat < 0x80 then [c.toUpper] else caseImage upperRuns upperExpansions c

/-- The first character of a text that is not passed over in the search for a letter has case. -/
def startsCased (text : List Char) : Bool :=
  match text.dropWhile fun c => inRanges caseIgnorableRanges c.toNat with
  | [] => false
  | c :: _ => inRanges casedRanges c.toNat

/-- The capital sigma, whose lower-case image depends on its neighbours. -/
def capitalSigma : Char := 'Σ'

/-- Lower case of a text, given the characters before it in reverse. A capital sigma after a
letter and not before one becomes the final small sigma. -/
def lowerAfter (before : List Char) : List Char → List Char
  | [] => []
  | c :: rest =>
    (if c = capitalSigma then
        [if startsCased before && !startsCased rest then 'ς' else 'σ']
      else lowerChar c) ++ lowerAfter (c :: before) rest

/-- Lower case of a text. -/
def lower (text : List Char) : List Char := lowerAfter [] text

/-- Upper case of a text. -/
def upper (text : List Char) : List Char := text.flatMap upperChar

/-- The first character in upper case, the others as they are. -/
def upperFirst : List Char → List Char
  | [] => []
  | c :: rest => upperChar c ++ rest

/-- The text in lower case. -/
def lowerString (text : String) : String := String.ofList (lower text.toList)

/-- The text in upper case. -/
def upperString (text : String) : String := String.ofList (upper text.toList)

/-- The text with its first character in upper case. -/
def upperFirstString (text : String) : String := String.ofList (upperFirst text.toList)

end StyleTokens.Text
