import ContentGateway.Duration
import ContentGateway.Elastic.Error
import ContentGateway.Environment
import ContentGateway.Url.Reading

/-!
# Settings of the search engine

Where the search engine is, how long a call to it may take, and whether empty values
are written as a word so that they can be found.
-/

namespace ContentGateway
namespace Elastic

structure Settings where
  url : Url
  clusterName : String
  /-- Null and empty values are replaced by the word `null`. -/
  nullValues : Bool
  /-- How long a call may take. -/
  limit : Duration

namespace Settings

def usualCluster : String := "docker-cluster"

/-- The text under a name or else a usual one. -/
def textOr (env : Environment) (name usual : String) : String :=
  (env.text? name).getD usual

def urlOf (env : Environment) : Except ConfigError Url :=
  let name := "ELASTICSEARCH_URL"
  match Url.parse? (textOr env name "http://localhost:9200") with
  | some url => .ok url
  | none => .error (.invalidUrl name withheld)

def nullValuesOf (env : Environment) : Except ConfigError Bool :=
  let name := "ELASTICSEARCH_INDEX_NULL_VALUE"
  match textOr env name "false" with
  | "true" => .ok true
  | "false" => .ok false
  | other => .error (.invalidValue name other)

def limitOf (env : Environment) : Except ConfigError Duration :=
  let name := "ELASTICSEARCH_TIMEOUT_MS"
  let text := textOr env name "10000"
  match Decimal.natural? largestWord text with
  | some n => .ok (.ofMillis n)
  | none => .error (.invalidValue name text)

def ofEnvironment (env : Environment) : Except ConfigError Settings := do
  let url ← urlOf env
  let nullValues ← nullValuesOf env
  let limit ← limitOf env
  pure ⟨url, textOr env "ELASTICSEARCH_CLUSTER_NAME" usualCluster, nullValues, limit⟩

/-- A search engine on this machine. -/
def localEngine (port : Nat) : Except ConfigError Settings :=
  match Url.parse? ("http://127.0.0.1:" ++ toString port) with
  | some url => .ok ⟨url, usualCluster, false, .ofSeconds 2⟩
  | none => .error (.invalidUrl "localhost" withheld)

/-- The settings as they are reported. -/
def toJson (s : Settings) : Json :=
  .ofMembers [("url", .string s.url.display), ("cluster_name", .string s.clusterName),
    ("index_null_value", .bool s.nullValues), ("timeout_ms", .nat s.limit.millis)]

end Settings
end Elastic
end ContentGateway
