import StyleTokens.Preset.Source
import StyleTokens.Settings.Basic
import StyleTokens.Toml.Parser
import StyleTokens.Value.Written

/-!
# Manifests

A manifest is a TOML file with the settings of the project in whose root directory it stands.
Every section may be left out, and so may every setting. The first setting that makes no sense is
reported with its place.
-/

namespace StyleTokens

namespace Manifest

/-- The name of a manifest file. -/
def fileName : String := "tokensmith.toml"

/-- The settings of a project without a manifest. -/
def standard (root : Path) (environment : Environment) : Manifest where
  root := root
  source := ⟨none, defaultContainer, .str defaultGroup⟩
  cache := ⟨.memory, defaultTtl, root.child defaultCacheDirectory,
    .str environment.redisUrl, .str defaultScope⟩
  output := .standard
  logging := ⟨"INFO", none⟩
  breakpoints := []
  spacing := []

/-- A fault in the settings of a file. -/
def refuse {α : Type} (file : Path) (key message : String) : Except Fault α :=
  .error (.inSettings file.text (some key) message)

/-- The entries of a section; one that is left out has none. -/
def part (data : Value) (name : String) (file : Path) : Except Fault Value.Entries :=
  match data with
  | .map entries =>
    match Value.Entries.get? entries name with
    | none => .ok []
    | some (.map inner) => .ok inner
    | some _ => refuse file name ("[" ++ name ++ "] must be a table")
  | other => .error (.noOperation other.kind "get")

/-- A path in settings, seen from the root of the project. -/
def pathOfValue (root : Path) (value : Value) : Except Fault Path :=
  match value.text? with
  | some text => .ok (root.join (.ofText text))
  | none => .error (.notPath value.kind)

/-- A path in settings that may be left out; what counts as false leaves it out. -/
def optionalPath (root : Path) (value : Value) : Except Fault (Option Path) :=
  if value.truthy then (pathOfValue root value).map some else .ok none

/-- The setting under a name, or what stands for it when it is left out. -/
def setting (entries : Value.Entries) (name : String) (standard : Value) : Value :=
  (entries.get? name).getD standard

/-- The keys that lead to the presets: given as a list or as one text with dots between them. -/
def containerOfValue (file : Path) : Value → Except Fault (List String)
  | .scalar .null => .ok defaultContainer
  | .scalar (.str s) => .ok ((Text.splitString '.' s).filter fun key => !key.isEmpty)
  | .list items =>
    if items.all fun item => item.text?.isSome then .ok (items.filterMap Value.text?)
    else refused
  | _ => refused
where
  refused : Except Fault (List String) :=
    refuse file "source.container" "Container must be a dotted string or a list of keys"

/-- The settings of the preset source. -/
def readSource (root file : Path) (entries : Value.Entries) : Except Fault SourceSettings := do
  let path ← optionalPath root (entries.get "path")
  let container ← containerOfValue file (entries.get "container")
  return ⟨path, container, setting entries "default_group" (.str defaultGroup)⟩

/-- The backend that a setting names. -/
def backendOfValue (file : Path) (value : Value) : Except Fault Backend :=
  match value.text?.bind Backend.ofName? with
  | some backend => .ok backend
  | none => do
    let text ← value.written
    refuse file "cache.backend" ("Unknown cache backend '" ++ text ++
      "' (expected one of " ++ ", ".intercalate (Backend.order.map Backend.name) ++ ")")

/-- The number of seconds that a setting gives. -/
def ttlOfValue (file : Path) : Value → Except Fault Nat
  | .scalar (.num (.int (.ofNat n))) => .ok n
  | _ => refuse file "cache.ttl" "Cache TTL must be a non-negative integer"

/-- The settings of the cache. -/
def readCache (root file : Path) (environment : Environment) (entries : Value.Entries) :
    Except Fault CacheSettings := do
  let backend ← backendOfValue file (setting entries "backend" (.str Backend.memory.name))
  let ttl ← ttlOfValue file (setting entries "ttl" (.int defaultTtl))
  let directory ← pathOfValue root (setting entries "directory" (.str defaultCacheDirectory))
  let url := entries.get "redis_url"
  return ⟨backend, ttl, directory, if url.truthy then url else .str environment.redisUrl,
    setting entries "namespace" (.str defaultScope)⟩

/-- The settings of the output. -/
def readOutput (entries : Value.Entries) : Except Fault OutputSettings := do
  let standard := OutputSettings.standard
  let order ← itemsOfValue (setting entries "breakpoint_order" (.list standard.breakpointOrder))
  return ⟨setting entries "style_id" standard.styleId,
    setting entries "preset_css" standard.presetCss, setting entries "annotate" standard.annotate,
    order, setting entries "variable_prefix" standard.variableStem⟩

/-- The settings of the log. -/
def readLogging (root : Path) (entries : Value.Entries) : Except Fault LogSettings := do
  let level ← (setting entries "level" (.str "INFO")).written
  let directory ← optionalPath root (entries.get "directory")
  return ⟨Text.upperString level, directory⟩

/-- The items of a section that is a list of tables. -/
def itemsOfPart (data : Value.Entries) (name : String) (file : Path) :
    Except Fault (List Value) :=
  match data.get? name with
  | none => .ok []
  | some (.list items) => .ok items
  | some _ => refuse file name (name ++ " must be an array of tables ([[" ++ name ++ "]])")

/-- Reads items one after the other; the first that has not the parts it needs is reported by its
place. -/
def readItems {α : Type} (file : Path) (name message : String)
    (read : Value → Option (Except Fault α)) (index : Nat) : List Value → Except Fault (List α)
  | [] => .ok []
  | item :: rest =>
    match read item with
    | some outcome => do
      let first ← outcome
      return first :: (← readItems file name message read (index + 1) rest)
    | none => refuse file (name ++ "[" ++ toString index ++ "]") message

/-- The breakpoint that an item gives: it needs a slug. -/
def breakpointOfValue? (item : Value) : Option (Except Fault Breakpoint) :=
  item.entries?.bind fun entries =>
    (Value.Entries.get? entries "slug").map fun slug => do
      return ⟨← slug.written, ← (setting entries "name" slug).written,
        ← (setting entries "value" (.str "0")).written⟩

/-- The size that an item gives: it needs a slug and a size. -/
def sizeOfValue? (item : Value) : Option (Except Fault SpacingSize) :=
  item.entries?.bind fun entries =>
    match Value.Entries.get? entries "slug", Value.Entries.get? entries "size" with
    | some slug, some size => some do
      let slug ← slug.written
      return ⟨slug, ← (setting entries "name" (.str (SpacingSize.defaultName slug))).written,
        ← size.written⟩
    | _, _ => none

/-- The settings that the table of a manifest gives. -/
def ofData (root file : Path) (environment : Environment) (data : Value) :
    Except Fault Manifest := do
  let sourceEntries ← part data "source" file
  let cacheEntries ← part data "cache" file
  let outputEntries ← part data "output" file
  let loggingEntries ← part data "logging" file
  let source ← readSource root file sourceEntries
  let cache ← readCache root file environment cacheEntries
  let output ← readOutput outputEntries
  let logging ← readLogging root loggingEntries
  let entries := data.entries?.getD []
  let breakpoints ← readItems file "breakpoints" "Breakpoint entries need at least a slug"
    breakpointOfValue? 0 (← itemsOfPart entries "breakpoints" file)
  let spacing ← readItems file "spacing" "Spacing entries need a slug and a size" sizeOfValue? 0
    (← itemsOfPart entries "spacing" file)
  return ⟨root, source, cache, output, logging, breakpoints, spacing⟩

/-- The table that a manifest's text holds. -/
def parseTable (file : Path) (text : String) : Except Fault Value :=
  match Toml.parse text with
  | .ok entries => .ok (.map entries)
  | .error (.unconvertible problem) => .error (.unconvertible problem)
  | .error .malformed => .error (.inSettings file.text none "Invalid TOML: not well-formed")

/-- The root of the project that a manifest belongs to. -/
def rootOf (file : Path) : Path := Path.resolve file.parent (.ofText ".")

/-- The settings that the bytes of a manifest give. -/
def ofBytes (file : Path) (environment : Environment) (bytes : List UInt8) :
    Except Fault Manifest := do
  let text ← (decodeText bytes).mapError .decoding
  let data ← parseTable file text
  ofData (rootOf file) file environment data

/-- The settings of a manifest, once it has been read. -/
def ofRead (file : Path) (environment : Environment) :
    Except FileFault (List UInt8) → Except Fault Manifest
  | .ok bytes => ofBytes file environment bytes
  | .error fault =>
    .error (if fault.isRefusal then
        .inSettings file.text none ("Cannot read manifest: " ++ fault.message)
      else .file fault)

/-- Loads a manifest. -/
def load (file : Path) (environment : Environment) : FileDialogue (Except Fault Manifest) :=
  .ask (.read file) fun outcome => .done (ofRead file environment outcome)

/-- The first of some directories that has a manifest. -/
def findIn : List Path → FileDialogue (Except Fault (Option Path))
  | [] => .done (.ok none)
  | directory :: rest =>
    .ask (.exists? (directory.child fileName)) fun
      | .error fault => .done (.error (.file fault))
      | .ok true => .done (.ok (some (directory.child fileName)))
      | .ok false => findIn rest

/-- The manifest nearest above a place, which is absolute. -/
def find (start : Path) : FileDialogue (Except Fault (Option Path)) :=
  if start.hasNull then .done (.error (.file ⟨.nullCharacter, [start.text]⟩))
  else findIn (start :: start.parents)

end Manifest

end StyleTokens
