import StyleTokens.CommandLine.Session

/-!
# Keeping the cache

The cache of a project is cleared, or checked against the preset source: what is cached is dropped
when the source has changed since it was stored.
-/

namespace StyleTokens.CommandLine

/-- The result of an action on a cache that has to be available. -/
def required {α : Type} (store : Store) (action : CacheAction α) : Step α := do
  match ← Step.perform store action with
  | .ok result => return result
  | .error (.cacheUnavailable report) => Step.refuse ("Cache unavailable: " ++ report.text)
  | .error fault => throw (.failed fault)

/-- What is said when a project has no cache. -/
def disabledLine : String := "Caching is disabled (backend = none)"

/-- Clears the cache of a project. -/
def clearCache (session : Session) (manifest : Option String) : Step Unit := do
  let project ← session.openProject manifest
  match RenderContext.openCache project.cache none with
  | none => Step.say .out disabledLine
  | some (cache, store) =>
    let count ← required store cache.clear
    Step.say .out ("✓ Cleared " ++ toString count ++ " cached stylesheet(s) from the " ++
      project.cache.backend.name ++ " cache")

/-- What a check of a cache comes to. -/
structure SourceCheck where
  /-- The digest of the preset source that was stored, if there was one. -/
  previous : Option String
  /-- The digest of the preset source. -/
  current : String
  /-- Whether what was cached has been dropped. -/
  dropped : Bool
  deriving DecidableEq, Repr

namespace SourceCheck

/-- What belongs to the check in the log. -/
def context (check : SourceCheck) (backend : Backend) : Value :=
  .ofFields [("backend", .str backend.name), ("previous", .optional check.previous),
    ("current", .str check.current), ("invalidated", .bool check.dropped)]

/-- What is said about the check. -/
def report (check : SourceCheck) : String :=
  if check.dropped then "Preset source changed; cached stylesheets invalidated"
  else "Preset source unchanged; cache is current"

end SourceCheck

/-- Checks a cache of a project on a store. -/
def checkSource (project : Manifest) (cache : SheetCache) (store : Store) : Step SourceCheck := do
  let current ← Action.noted id (← Action.ofFiles (sourceDigest project.source.path))
  let previous ← required store cache.storedDigest
  match ← Step.perform store (cache.dropIfChanged current) with
  | .ok dropped => return ⟨previous, current, dropped⟩
  | .error fault => throw (.failed fault)

/-- Checks the cache of a project, and drops what is cached if the preset source has changed. -/
def checkCache (session : Session) (manifest : Option String) : Step Unit := do
  let project ← session.openProject manifest
  match RenderContext.openCache project.cache none with
  | none => Step.say .out disabledLine
  | some (cache, store) =>
    let check ← checkSource project cache store
    Action.note ⟨.info, Log.rootLogger ++ ".cli", "Cache source check"⟩
      (check.context project.cache.backend)
    Step.say .out check.report

end StyleTokens.CommandLine
