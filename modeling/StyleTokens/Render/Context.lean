import StyleTokens.Cache.Key
import StyleTokens.Cache.Store
import StyleTokens.ClassName.Responsive
import StyleTokens.Preset.Source
import StyleTokens.Preset.Stylesheet
import StyleTokens.Settings.Basic

/-!
# Rendering contexts

A context holds all that rendering needs: the presets of a project, the tokens of elements that
have none of their own, the cache and the settings. It is built from the settings; building drops
what is cached if the preset source has changed.
-/

namespace StyleTokens

/-- All that rendering needs. -/
structure RenderContext where
  /-- The presets. -/
  registry : Registry
  /-- The spacing of elements that have none of their own. -/
  tokens : Value.Entries
  /-- The cache and its store, if there is one. -/
  cache : Option (SheetCache × Store)
  /-- How output is written. -/
  output : OutputSettings
  /-- The breakpoints. -/
  breakpoints : List Breakpoint
  /-- The spacing scale. -/
  spacing : List SpacingSize

/-- The cache of a project. -/
def CacheSettings.sheetCache (settings : CacheSettings) : SheetCache :=
  ⟨settings.scope.display, .num (.int settings.ttl)⟩

namespace RenderContext

/-- What is said about presets that could not be loaded. -/
def notLoaded (registry : Registry) : List Log.Line :=
  if registry.available then []
  else
    [⟨.warning, Log.rootLogger ++ ".compiler.context",
      "No presets loaded: " ++ registry.problem.getD "None"⟩]

/-- The registry of a project. -/
def loadRegistry (manifest : Manifest) : Action Registry := do
  let source := match manifest.source.path with
    | some path => PresetSource.file path
    | none => .none
  let reading ← Action.ofFiles
    (Registry.load source (manifest.source.container.map .str) manifest.source.defaultGroup)
  Action.noted RegistryNote.line reading

/-- The cache of a project on a store, or on the store that its settings select. -/
def openCache (settings : CacheSettings) (store : Option Store) : Option (SheetCache × Store) :=
  (store.or (Store.ofSettings settings)).map fun chosen => (settings.sheetCache, chosen)

/-- Drops what is cached if the preset source has changed. -/
def checkSource (manifest : Manifest) (cache : SheetCache) (store : Store) :
    Action (SheetCache × Store) := do
  let digest ← Action.noted id (← Action.ofFiles (sourceDigest manifest.source.path))
  match ← (store.perform (cache.dropIfChanged digest) : EffectDialogue _) with
  | (.ok _, after) => return (cache, after)
  | (.error fault, _) => throw fault

/-- Builds the context of a project, on a store if one is given. -/
def build (manifest : Manifest) (tokens : Value) (store : Option Store) (useCache : Bool) :
    Action RenderContext := do
  let registry ← loadRegistry manifest
  if manifest.source.path.isSome then
    (EffectDialogue.note (notLoaded registry) : EffectDialogue _)
  let opened := if useCache then openCache manifest.cache store else none
  let cache ← match opened with
    | some (cache, chosen) => some <$> checkSource manifest cache chosen
    | none => pure none
  return ⟨registry, ← Action.ofExcept (entriesOfValue tokens), cache, manifest.output,
    manifest.breakpoints, manifest.spacing⟩

/-- The key of the stylesheet. -/
def sheetKey (context : RenderContext) : Except Fault String :=
  StyleTokens.sheetKey context.registry.presets context.output.flags

/-- The stylesheet, generated anew. -/
def generate (context : RenderContext) : Except Fault String :=
  presetSheet context.registry.presets context.output.annotate.truthy

/-- The stylesheet, from a cache if it is there. -/
def sheetFrom (context : RenderContext) (cache : SheetCache) : CacheAction String := do
  let key ← CacheAction.ofExcept context.sheetKey
  let (sheet, _) ← cache.getOrGenerate key (fun _ => context.generate) none
  return sheet

/-- The stylesheet, from the cache if it is there; and the context afterwards. -/
def stylesheet (context : RenderContext) : EffectDialogue (Except Fault String × RenderContext) :=
  match context.cache with
  | none => .done (context.generate, context)
  | some (cache, store) =>
    (store.perform (context.sheetFrom cache)).bind fun (outcome, after) =>
      .done (outcome, { context with cache := some (cache, after) })

/-- The spacing classes of an element, or of one that has no spacing of its own. -/
def classesFor (context : RenderContext) (attributes : Value) : Noted Malformed String :=
  let own := match attributes with
    | .scalar .null => .map context.tokens
    | other => other
  compileSpacing own (.list context.output.breakpointOrder)

/-- The sheet of utility rules. -/
def utilities (context : RenderContext) : String :=
  utilitySheet context.spacing context.breakpoints StyleCategory.order
    context.output.variableStem.display

end RenderContext

/-- A malformed entry as a line of the log. -/
def Malformed.line (entry : Malformed) : Log.Line :=
  ⟨.debug, Log.rootLogger ++ ".compiler.normalizer",
    "Skipping malformed token entry " ++ entry.raw.literalString ++ " (" ++ entry.reason ++ ")"⟩

end StyleTokens
