import StyleTokens.Render.Context
import StyleTokens.Text.Markup

/-!
# Pages

What a page is given: a style element with the stylesheet of presets for its head and for the head
of the editor's preview, which get the same text; and the class attributes of its elements.
-/

namespace StyleTokens

/-- An element with an id around a text. -/
def element (tag id content : String) : String :=
  "<" ++ tag ++ " id=\"" ++ Text.attributeString id ++ "\">\n" ++ content ++ "\n</" ++ tag ++ ">\n"

/-- A style element; an empty stylesheet has none. -/
def styleElement (css id : String) : String :=
  if css.isEmpty then "" else element "style" id css

/-- A style element with an unchecked id, which has to be a text. -/
def styleElementOfValue (css : String) (id : Value) : Except Fault String :=
  if css.isEmpty then .ok ""
  else
    match id.text? with
    | some text => .ok (styleElement css text)
    | none => .error (.noOperation id.kind "replace")

namespace RenderContext

/-- The stylesheet that a page is given, if it is given one; and the context afterwards. -/
def pageSheet (context : RenderContext) : EffectDialogue (Except Fault String × RenderContext) :=
  if context.output.presetCss.truthy then context.stylesheet else .done (.ok "", context)

/-- The style element for the head of a page; and the context afterwards. -/
def headElement (context : RenderContext) : EffectDialogue (Except Fault String × RenderContext) :=
  context.pageSheet.bind fun (sheet, after) =>
    .done (sheet.bind fun css => styleElementOfValue css context.output.styleId, after)

/-- The style element for the head of the editor's preview; and the context afterwards. -/
def editorHeadElement (context : RenderContext) :
    EffectDialogue (Except Fault String × RenderContext) := context.headElement

/-- The class attribute of an element, its spacing classes behind those that it has. -/
def classAttribute (context : RenderContext) (existing attributes : Value) :
    Noted Malformed String := do
  let classes ← context.classesFor attributes
  return appendClasses (attributeOfValue existing) classes

end RenderContext

end StyleTokens
