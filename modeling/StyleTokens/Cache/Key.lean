import StyleTokens.Digest.Sha256
import StyleTokens.Files.Request
import StyleTokens.Json.Canonical
import StyleTokens.Log.Line
import StyleTokens.Noted
import StyleTokens.Preset.Basic
import StyleTokens.Value.Items

/-!
# Cache keys

A stylesheet is cached under the digest of all that it is made from: ids, labels and properties of
the presets, in order, and the settings that change its text. The preset source has a digest too,
by which a change of the source is noticed.
-/

namespace StyleTokens

/-- The digest of a value's canonical text. -/
def keyOf (inputs : Value) : Except Fault String := (Json.canonical inputs).map Sha256.ofText

/-- What a preset contributes to a stylesheet besides its id. -/
def presetInputs (label : Value) (bag : PropertyBag) : Value :=
  .ofFields [("label", label),
    ("properties", .list (bag.map fun (name, value) => .list [.str name, value]))]

/-- What an unchecked preset contributes. -/
def presetInputsOfValue : Value → Except Fault Value
  | .map entries =>
    let bag := match Value.Entries.get entries "properties" with
      | .map properties => bagOfEntries properties
      | _ => []
    .ok (presetInputs (Value.Entries.get entries "label") bag)
  | other => .error (.noOperation other.kind "get")

/-- All that a stylesheet is made from. -/
def sheetInputs (presets : List Value) (flags : Value.Entries) : Value :=
  .ofFields [("presets", .list presets), ("flags", .map flags)]

/-- All that the stylesheet of a registry is made from. -/
def inputsOfPresets (presets : Keyed Preset) (flags : List (String × Value)) : Value :=
  sheetInputs
    (presets.map fun (id, preset) =>
      .list [.str id, presetInputs (.str preset.label) preset.properties])
    (flags.map fun (name, value) => (.str name, value))

/-- The key of the stylesheet of a registry. -/
def sheetKey (presets : Keyed Preset) (flags : List (String × Value)) : Except Fault String :=
  keyOf (inputsOfPresets presets flags)

/-- All that the stylesheet of an unchecked registry is made from. -/
def inputsOfValue (registry : Value) (flags : Value) : Except Fault Value :=
  match registry with
  | .map entries => do
    let presets ← entries.mapM fun (id, preset) =>
      (presetInputsOfValue preset).map fun inputs => Value.list [.scalar id, inputs]
    return sheetInputs presets (← entriesOfValue flags)
  | other => .error (.noOperation other.kind "items")

/-- The digest of a preset source that is not there. -/
def absentDigest : String := "absent"

/-- The digest of a preset source, once it has been read. One that cannot be read has the digest
of one that is not there, and why is noted. -/
def digestOfRead (path : Path) : Except FileFault (List UInt8) → Noted Log.Line String
  | .ok bytes => .result (Sha256.hexDigest bytes)
  | .error ⟨.missing, _⟩ => .result absentDigest
  | .error fault => do
    unless fault.isRefusal do Noted.quiet (.error (.file fault))
    Noted.note ⟨.debug, Log.rootLogger ++ ".cache.content_cache",
      "Cannot hash preset source " ++ path.text ++ ": " ++ fault.message⟩
    return absentDigest

/-- The digest of the bytes of a preset source. -/
def sourceDigest : Option Path → FileDialogue (Noted Log.Line String)
  | none => .done (.result absentDigest)
  | some path => .ask (.read path) fun outcome => .done (digestOfRead path outcome)

end StyleTokens
