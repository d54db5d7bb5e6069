import StyleTokens.Yaml.Node
import StyleTokens.Yaml.Quoted

/-!
# Documents

The part of YAML that preset sources use: block maps and lists by indentation, flow maps and
lists, plain and quoted scalars, comments. Anchors, tags, directives, block scalars and keys of
more than one line are refused, as is a tab where indentation is due.
-/

namespace StyleTokens.Yaml

/-- What a reader of a node returns: the node and the position after it. -/
abbrev Step := Option (Node × Cursor)

/-- A scalar at a position: quoted, or plain with its further lines at the given column or
beyond. Neither has more parts than the bound says. -/
def readScalar (bound : Nat) (inFlow : Bool) (indent : Nat) (cursor : Cursor) : Step :=
  match cursor.rest with
  | '"' :: _ =>
    (readDouble bound (cursor.advance 1)).map fun (text, after) => (.quoted text, after)
  | '\'' :: _ =>
    (readSingle bound (cursor.advance 1)).map fun (text, after) => (.quoted text, after)
  | _ =>
    if startsPlain inFlow cursor.rest then
      let (text, after) := readPlain inFlow indent bound cursor
      some (.plain text, after)
    else none

/-- Whether a colon that ends a key stands at a position, after any spaces. -/
def atColon (inFlow : Bool) (cursor : Cursor) : Bool :=
  match cursor.skipSpaces.rest with
  | ':' :: rest => inFlow || startsGap rest
  | _ => false

/-- Past a colon and the spaces before it. -/
def pastColon (cursor : Cursor) : Cursor := cursor.skipSpaces.advance 1

mutual

/-- A node inside a flow collection. -/
def readFlowNode (bound indent : Nat) : Nat → Cursor → Step
  | 0, _ => none
  | steps + 1, cursor =>
    match cursor.rest with
    | '[' :: _ => readFlowItems bound indent steps (cursor.advance 1).toToken []
    | '\x7b' :: _ => readFlowEntries bound indent steps (cursor.advance 1).toToken []
    | _ => readScalar bound true indent cursor

/-- The value after a colon inside a flow collection; before a comma or an end there is none. -/
def readFlowValue (bound indent : Nat) : Nat → Cursor → Step
  | 0, _ => none
  | steps + 1, cursor =>
    match cursor.rest with
    | ',' :: _ | ']' :: _ | '\x7d' :: _ => some (.missing, cursor)
    | _ => readFlowNode bound indent steps cursor

/-- The items of a flow list and its closing bracket. -/
def readFlowItems (bound indent : Nat) : Nat → Cursor → List Node → Step
  | 0, _, _ => none
  | steps + 1, cursor, items =>
    match cursor.rest with
    | ']' :: _ => some (.list items, cursor.advance 1)
    | _ =>
      match readFlowNode bound indent steps cursor with
      | none => none
      | some (item, after) =>
        if atColon true after && after.line == cursor.line then
          match readFlowValue bound indent steps (pastColon after).toToken with
          | none => none
          | some (value, final) =>
            readFlowSeparator bound indent steps final.toToken (items ++ [.map [(item, value)]])
        else readFlowSeparator bound indent steps after.toToken (items ++ [item])

/-- The comma between two items of a flow list, or its closing bracket. -/
def readFlowSeparator (bound indent : Nat) : Nat → Cursor → List Node → Step
  | 0, _, _ => none
  | steps + 1, cursor, items =>
    match cursor.rest with
    | ',' :: _ => readFlowItems bound indent steps (cursor.advance 1).toToken items
    | ']' :: _ => some (.list items, cursor.advance 1)
    | _ => none

/-- The entries of a flow map and its closing brace. -/
def readFlowEntries (bound indent : Nat) : Nat → Cursor → List (Node × Node) → Step
  | 0, _, _ => none
  | steps + 1, cursor, pairs =>
    match cursor.rest with
    | '\x7d' :: _ => some (.map pairs, cursor.advance 1)
    | _ =>
      match readFlowNode bound indent steps cursor with
      | none => none
      | some (key, after) =>
        let read : Step :=
          if atColon true after && after.line == cursor.line then
            readFlowValue bound indent steps (pastColon after).toToken
          else some (.missing, after)
        match read with
        | none => none
        | some (value, final) =>
          let here := final.toToken
          let all := pairs ++ [(key, value)]
          match here.rest with
          | ',' :: _ => readFlowEntries bound indent steps (here.advance 1).toToken all
          | '\x7d' :: _ => some (.map all, here.advance 1)
          | _ => none

end

/-- A scalar or a flow collection at a position. -/
def readLeaf (bound indent : Nat) (cursor : Cursor) : Step :=
  match cursor.rest with
  | '[' :: _ | '\x7b' :: _ => readFlowNode bound indent bound cursor
  | _ => readScalar bound false indent cursor

/-- Whether the mark of a list item stands at a position. -/
def atDash (cursor : Cursor) : Bool :=
  match cursor.rest with
  | '-' :: rest => startsGap rest
  | _ => false

/-- Whether nothing more of the document stands at a position. -/
def atEnd (cursor : Cursor) : Bool := cursor.rest.isEmpty || cursor.atDocumentEdge

mutual

/-- A block node at a token; its columns lie at `indent` or beyond. -/
def readBlockNode (bound indent : Nat) : Nat → Cursor → Step
  | 0, _ => none
  | steps + 1, cursor =>
    if atDash cursor then readBlockItems bound cursor.column steps cursor []
    else
      match readLeaf bound indent cursor with
      | none => none
      | some (node, after) =>
        if atColon false after then
          if after.line == cursor.line then readBlockEntries bound cursor.column steps cursor []
          else none
        else some (node, after)
termination_by structural steps => steps

/-- The value after an indicator, a collection's column given: on the same line or on a further
one beyond that column, and missing when there is none. A block collection may start on the
indicator's own line only after the mark of a list item. -/
def readBlockValue (bound column : Nat) (afterDash : Bool) : Nat → Cursor → Step
  | 0, _ => none
  | steps + 1, cursor =>
    let here := cursor.toToken
    if atEnd here then some (.missing, cursor)
    else if here.line == cursor.line then
      if afterDash then readBlockNode bound (column + 1) steps here
      else (readLeaf bound (column + 1) here).filter fun step => !atColon false step.2
    else if column < here.column then readBlockNode bound (column + 1) steps here
    else if here.column = column && !afterDash && atDash here then
      readBlockItems bound column steps here []
    else some (.missing, cursor)
termination_by structural steps => steps

/-- The items of a block list whose marks stand in the given column. -/
def readBlockItems (bound column : Nat) : Nat → Cursor → List Node → Step
  | 0, _, _ => none
  | steps + 1, cursor, items =>
    match readBlockValue bound column true steps (cursor.advance 1) with
    | none => none
    | some (item, after) =>
      let here := after.toToken
      let all := items ++ [item]
      if atEnd here || here.column < column then some (.list all, after)
      else if here.line == after.line then none
      else if here.column = column then
        if atDash here then readBlockItems bound column steps here all else some (.list all, after)
      else none
termination_by structural steps => steps

/-- The entries of a block map whose keys stand in the given column. -/
def readBlockEntries (bound column : Nat) : Nat → Cursor → List (Node × Node) → Step
  | 0, _, _ => none
  | steps + 1, cursor, pairs =>
    match readLeaf bound (column + 1) cursor with
    | none => none
    | some (key, named) =>
      if !(atColon false named && named.line == cursor.line) then none
      else
        match readBlockValue bound column false steps (pastColon named) with
        | none => none
        | some (value, after) =>
          let here := after.toToken
          let all := pairs ++ [(key, value)]
          if atEnd here || here.column < column then some (.map all, after)
          else if here.line == after.line then none
          else if here.column = column then readBlockEntries bound column steps here all
          else none
termination_by structural steps => steps

end

/-- The start of the content: past one document start, if there is one. -/
def contentStart (cursor : Cursor) : Cursor :=
  let here := cursor.toToken
  if here.atMarker "---" then (here.advance 3).toToken else here

/-- Whether a document may end at a position: nothing follows but an end marker and comments. -/
def endsDocument (cursor : Cursor) : Bool :=
  let here := cursor.toToken
  if here.rest.isEmpty then true
  else if here.atMarker "..." then (here.advance 3).toToken.rest.isEmpty
  else false

/-- The node that a document consists of; an empty document consists of a missing one. -/
def readDocument (text : String) : Option Node :=
  let chars := text.toList
  if !chars.all isAllowed then none
  else
    let start := contentStart (Cursor.ofChars chars)
    if atEnd start then if endsDocument start then some .missing else none
    else
      let bound := 3 * chars.length + 3
      match readBlockNode bound 0 bound start with
      | none => none
      | some (node, after) => if endsDocument after then some node else none

/-- The value that a document denotes; an empty one is null. -/
def parse (text : String) : Except Refusal Value :=
  match readDocument text with
  | none => .error .malformed
  | some node => node.toValue

end StyleTokens.Yaml
