import ContentGateway.Content
import ContentGateway.Duration
import ContentGateway.Environment
import ContentGateway.Failure
import ContentGateway.Json.Text
import ContentGateway.Text.LowerCase
import ContentGateway.Text.Pieces

/-!
# Settings of the gateway

Which backends the gateway uses, which indexes it creates when it starts, and how it
serves requests.  Each setting has a usual value; the first one that is wrong is
reported.
-/

namespace ContentGateway

inductive LogFormat where
  | text
  | json
  deriving DecidableEq, Repr

def LogFormat.word : LogFormat -> String
  | .text => "text"
  | .json => "json"

inductive StorageKind where
  | ipfs
  | memory
  deriving DecidableEq, Repr

def StorageKind.word : StorageKind -> String
  | .ipfs => "ipfs"
  | .memory => "memory"

inductive IndexerKind where
  | elasticsearch
  | memory
  deriving DecidableEq, Repr

def IndexerKind.word : IndexerKind -> String
  | .elasticsearch => "elasticsearch"
  | .memory => "memory"

/-- An index that is created when the gateway starts. -/
structure IndexConfig where
  name : String
  configuration : Json

def IndexConfig.toJson (c : IndexConfig) : Json :=
  .ofMembers [("name", .string c.name), ("configuration", c.configuration)]

structure Settings where
  port : Nat
  logFormat : LogFormat
  storage : StorageKind
  indexer : IndexerKind
  indexConfigs : List IndexConfig
  /-- The time between two passes of the reconciler; it does not run if this is zero. -/
  reconcilerPeriod : Duration
  /-- The origins whose pages may call; all if there is none. -/
  corsOrigins : List String
  maxUploadBytes : Nat

inductive SettingsError where
  | invalidValue (name value : String)
  /-- The configuration of an index cannot be read. -/
  | indexMapping (index path : String)
  deriving DecidableEq, Repr

namespace SettingsError

def display : SettingsError -> String
  | .invalidValue name value => "invalid value for " ++ name ++ ": '" ++ value ++ "'"
  | .indexMapping index path =>
      "cannot load mapping for index " ++ index ++ " from " ++ path ++ ": " ++ withheld

end SettingsError

/-- The bytes of a file, if there is one. -/
abbrev Files := String -> Option Bytes

namespace Settings

/-!
# Lists
-/

/-- The entries between commas that are not blank, without the blanks around them. -/
def entries (text : String) : List (List Char) :=
  ((splitBy (· == ',') text.toList).map (trimBy isBlank)).filter fun entry => !entry.isEmpty

/-- A configuration is a file of JSON text. -/
def loadMapping (files : Files) (path : String) : Option Json := do
  let content ← files path
  let text ← Utf8.toString? content
  Json.parse? text

/-- An entry names an index and the file of its configuration. -/
def indexConfig (files : Files) (entry : List Char) : Except SettingsError IndexConfig :=
  let invalid : SettingsError := .invalidValue "MAHUTA_INDEX_CONFIGS" (String.ofList entry)
  match splitFirst '=' entry with
  | none => .error invalid
  | some (name, path) =>
      let name := String.ofList (trimBy isBlank name)
      let path := String.ofList (trimBy isBlank path)
      if name.isEmpty || path.isEmpty then .error invalid
      else
        match loadMapping files path with
        | some configuration => .ok ⟨name, configuration⟩
        | none => .error (.indexMapping name path)

def readIndexConfigs (files : Files) (text : String) : Except SettingsError (List IndexConfig) :=
  (entries text).mapM (indexConfig files)

/-- A star among the origins stands for all. -/
def readOrigins (text : String) : List String :=
  let origins := (entries text).map String.ofList
  if origins.contains "*" then [] else origins

/-!
# Values
-/

def number (env : Environment) (name : String) (largest usual : Nat) : Except SettingsError Nat :=
  match env.text? name with
  | none => .ok usual
  | some text =>
      match Decimal.natural? largest (trim text) with
      | some n => .ok n
      | none => .error (.invalidValue name text)

/-- The one of several values that is named by its word in any case; the first one is usual. -/
def choice (env : Environment) (name : String) (word : α -> String) (usual : α)
    (others : List α) : Except SettingsError α :=
  match (env.text? name).map asciiLowerCase with
  | none => .ok usual
  | some text =>
      match (usual :: others).find? fun value => word value == text with
      | some value => .ok value
      | none => .error (.invalidValue name text)

def megabyte : Nat := 1048576

def ofEnvironment (files : Files) (env : Environment) : Except SettingsError Settings := do
  let port ← number env "PORT" Environment.largestPort 8040
  let logFormat ← choice env "LOG_FORMAT" LogFormat.word .text [.json]
  let storage ← choice env "MAHUTA_STORAGE" StorageKind.word .ipfs [.memory]
  let indexer ← choice env "MAHUTA_INDEXER" IndexerKind.word .elasticsearch [.memory]
  let indexConfigs ← readIndexConfigs files ((env.text? "MAHUTA_INDEX_CONFIGS").getD "")
  let period ← number env "MAHUTA_RECONCILER_PERIOD_SECS" largestWord 30
  let megabytes ← number env "MAHUTA_MAX_UPLOAD_MB" largestWord 100
  pure {
    port, logFormat, storage, indexer, indexConfigs
    reconcilerPeriod := .ofSeconds period
    corsOrigins := readOrigins ((env.text? "MAHUTA_CORS_ORIGINS").getD "")
    maxUploadBytes := min (megabytes * megabyte) largestWord }

/-- All origins may call. -/
def allowsAnyOrigin (s : Settings) : Bool :=
  s.corsOrigins.isEmpty

/-- The settings as they are reported. -/
def toJson (s : Settings) : Json :=
  .ofMembers [("port", .nat s.port), ("log_format", .string s.logFormat.word),
    ("storage", .string s.storage.word), ("indexer", .string s.indexer.word),
    ("index_configs", .array (s.indexConfigs.map IndexConfig.toJson)),
    ("reconciler_period_secs", .nat (s.reconcilerPeriod.millis / 1000)),
    ("cors_any", .bool s.allowsAnyOrigin), ("cors_origins", Json.strings s.corsOrigins),
    ("max_upload_bytes", .nat s.maxUploadBytes)]

end Settings
end ContentGateway
