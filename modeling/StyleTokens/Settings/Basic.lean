import StyleTokens.Files.Path
import StyleTokens.Utility.Sheet
import StyleTokens.Value.Items

/-!
# Settings

The settings of a project: where its presets come from, how its stylesheet is cached and written,
what is logged, and which breakpoints and sizes it has. Settings that only pass through to the
output are kept as the unchecked data that they are.
-/

namespace StyleTokens

/-- The environment variables that matter. -/
structure Environment where
  /-- The address of the cache server for this tool alone. -/
  ownCacheUrl : Option String
  /-- The address of the cache server for all tools. -/
  cacheUrl : Option String
  /-- Whether colour is to be left out, when the text is not empty. -/
  noColor : Option String
  deriving DecidableEq, Repr

/-- An environment in which nothing is set. -/
def Environment.none : Environment := ⟨.none, .none, .none⟩

/-- The address of the cache server; an empty text counts as none. -/
def Environment.redisUrl (environment : Environment) : String :=
  ((environment.ownCacheUrl.filter fun url => !url.isEmpty).or environment.cacheUrl).getD ""

/-- Where presets come from. -/
structure SourceSettings where
  /-- The file that holds them, if there is one. -/
  path : Option Path
  /-- The keys that lead to them in the document. -/
  container : List String
  /-- The group of presets that name none. -/
  defaultGroup : Value

/-- The kinds of store for cached stylesheets. -/
inductive Backend where
  /-- The memory of the process. -/
  | memory
  /-- A directory of files. -/
  | file
  /-- A server. -/
  | redis
  /-- No store: nothing is cached. -/
  | none
  deriving DecidableEq, Repr

namespace Backend

/-- Every backend, in the order in which reports name them. -/
def order : List Backend := [.memory, .file, .redis, .none]

/-- The name of a backend in settings. -/
def name : Backend → String
  | .memory => "memory"
  | .file => "file"
  | .redis => "redis"
  | .none => "none"

/-- The backend with a name. -/
def ofName? (name : String) : Option Backend := order.find? fun backend => backend.name == name

end Backend

/-- How stylesheets are cached. -/
structure CacheSettings where
  /-- The store. -/
  backend : Backend
  /-- For how many seconds an entry is good; zero means for ever. -/
  ttl : Nat
  /-- The directory of a file store. -/
  directory : Path
  /-- The address of a cache server. -/
  redisUrl : Value
  /-- What the keys of this project begin with. -/
  scope : Value

/-- How output is written. -/
structure OutputSettings where
  /-- The id of the style element. -/
  styleId : Value
  /-- Whether the stylesheet of presets is written. -/
  presetCss : Value
  /-- Whether rules have comments with the labels of their presets. -/
  annotate : Value
  /-- The order of breakpoints in class lists. -/
  breakpointOrder : List Value
  /-- What custom properties of sizes begin with. -/
  variableStem : Value

namespace OutputSettings

/-- The breakpoints in the order in which classes are written unless another is given. -/
def defaultOrder : List String := ["base", "sm", "md", "lg", "xl"]

/-- The settings that change the text of the stylesheet. -/
def flags (settings : OutputSettings) : List (String × Value) :=
  [("annotate", settings.annotate), ("preset_css", settings.presetCss)]

/-- The settings with the one under a name set; other names set nothing. -/
def assign (settings : OutputSettings) (name : String) (value : Value) :
    Except Fault OutputSettings := do
  match name with
  | "style_id" => return { settings with styleId := value }
  | "preset_css" => return { settings with presetCss := value }
  | "annotate" => return { settings with annotate := value }
  | "variable_prefix" => return { settings with variableStem := value }
  | "breakpoint_order" => return { settings with breakpointOrder := ← itemsOfValue value }
  | _ => return settings

/-- The output settings of a project that sets none. -/
def standard : OutputSettings :=
  ⟨.str "tokensmith-type-presets", .bool true, .bool false, defaultOrder.map .str,
    .str defaultVariableStem⟩

end OutputSettings

/-- What is logged. -/
structure LogSettings where
  /-- The name of the least level that is logged. -/
  level : String
  /-- The directory of the log file, if there is one. -/
  directory : Option Path

/-- The settings of a project. -/
structure Manifest where
  /-- The directory that relative paths start from. -/
  root : Path
  /-- Where presets come from. -/
  source : SourceSettings
  /-- How stylesheets are cached. -/
  cache : CacheSettings
  /-- How output is written. -/
  output : OutputSettings
  /-- What is logged. -/
  logging : LogSettings
  /-- The breakpoints. -/
  breakpoints : List Breakpoint
  /-- The spacing scale. -/
  spacing : List SpacingSize

/-- For how many seconds an entry is good unless settings say otherwise: a day. -/
def defaultTtl : Nat := 86400

/-- Where a file store is, seen from the root of a project. -/
def defaultCacheDirectory : String := ".tokensmith/cache"

/-- What keys begin with unless settings say otherwise. -/
def defaultScope : String := "tokensmith"

end StyleTokens
