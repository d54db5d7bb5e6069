import StyleTokens.Preset.Basic
import StyleTokens.Preset.Declaration

/-!
# The stylesheet of presets

Each preset with a declaration is a rule, in the order of the registry, with a blank line between
rules. On request a comment in front of the rule shows the preset's label; a comment cannot be
ended by its text.
-/

namespace StyleTokens

/-- The selector of the elements that use a preset. -/
def presetSelector (id : String) : String := ".has-type-preset-" ++ id

/-- The text without any occurrence of `*/` as it is read from the left. -/
def dropCommentEnds : List Char → List Char
  | '*' :: '/' :: rest => dropCommentEnds rest
  | c :: rest => c :: dropCommentEnds rest
  | [] => []

/-- A label as the text of a comment. -/
def commentText (label : String) : String :=
  String.ofList (dropCommentEnds (Text.stripMarkup label.toList))

/-- The comment in front of a rule. -/
def labelComment (label : String) : String :=
  "/* Typography Preset: " ++ commentText label ++ " */\n"

/-- A rule: a selector and declarations. -/
def ruleBlock (selector : String) (lines : List Declaration) : String :=
  selector ++ " \x7b\n" ++ "\n".intercalate (lines.map Declaration.line) ++ "\n\x7d"

/-- The rule of a preset's properties; empty when no declaration is left. -/
def presetRule (id : String) (bag : PropertyBag) (comment : String) : Except Fault String :=
  (declarations bag).map fun lines =>
    if lines.isEmpty then "" else comment ++ ruleBlock (presetSelector id) lines

/-- The rule of a preset. -/
def Preset.rule (preset : Preset) (id : String) (annotate : Bool) : Except Fault String :=
  presetRule id preset.properties
    (if annotate then labelComment (if preset.label.isEmpty then id else preset.label) else "")

/-- Rules with a blank line between them, the empty ones left out. -/
def joinRules (rules : List String) : String :=
  "\n\n".intercalate (rules.filter fun rule => !rule.isEmpty)

/-- The stylesheet of presets. -/
def presetSheet (presets : Keyed Preset) (annotate : Bool) : Except Fault String :=
  joinRules <$> presets.mapM fun (id, preset) => Preset.rule preset id annotate

/-- The label that unchecked data gives to a preset: a text that is not empty, or else the id. -/
def labelOfValue (id label : Value) : Value :=
  match label.text? with
  | some text => if text.isEmpty then id else label
  | none => id

/-- The comment in front of an unchecked preset's rule. -/
def commentOfValue (annotate : Bool) (id label : Value) : Except Fault String :=
  if annotate then
    match (labelOfValue id label).text? with
    | some text => .ok (labelComment text)
    | none => .error (.notText (labelOfValue id label).kind)
  else .ok ""

/-- The rule of an unchecked preset; what is no map is none. -/
def ruleOfValue (id preset : Value) (annotate : Bool) : Except Fault String :=
  match preset with
  | .map entries =>
    match Value.Entries.get entries "properties" with
    | .map properties => do
      let lines ← declarations (bagOfEntries properties)
      if lines.isEmpty then return ""
      else
        let comment ← commentOfValue annotate id (Value.Entries.get entries "label")
        return comment ++ ruleBlock (presetSelector id.display) lines
    | _ => .ok ""
  | other => .error (.noOperation other.kind "get")

/-- The stylesheet of unchecked presets. -/
def sheetOfValue (registry : Value) (annotate : Bool) : Except Fault String :=
  match registry with
  | .map entries =>
    joinRules <$> entries.mapM fun (id, preset) => ruleOfValue (.scalar id) preset annotate
  | other => .error (.noOperation other.kind "items")

end StyleTokens
