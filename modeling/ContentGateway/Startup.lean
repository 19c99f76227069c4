import ContentGateway.Elastic.Engine
import ContentGateway.Ipfs.Storage
import ContentGateway.Service
import ContentGateway.Settings

/-!
# Startup

The gateway starts when its backends are connected, first the storage, then the
indexer, and the indexes that its settings name have been created.
-/

namespace ContentGateway
namespace Startup

/-- What a world offers to a gateway that starts in it. -/
structure Ground (W : Type) where
  /-- The backends held in memory. -/
  memory : Backends W
  network : Http.Network W
  workers : Workers W
  freshId : StateM W String
  environment : Environment

/-- Why the gateway does not start. -/
inductive Obstacle where
  | storageSettings (why : Ipfs.ConfigError)
  | indexerSettings (why : Elastic.ConfigError)
  | backend (why : Failure)
  deriving DecidableEq, Repr

def Obstacle.display : Obstacle -> String
  | .storageSettings why => "invalid IPFS configuration: " ++ why.display
  | .indexerSettings why => "invalid Elasticsearch configuration: " ++ why.display
  | .backend why => why.display

abbrev Attempt (W : Type) (α : Type) := ExceptT Obstacle (StateM W) α

variable {W : Type}

def ofAction (call : Action W α) : Attempt W α :=
  fun w => let (answer, w) := call.run w; (answer.mapError .backend, w)

def storage (g : Ground W) (s : Settings) : Attempt W (Storage W) :=
  match s.storage with
  | .memory => pure g.memory.storage
  | .ipfs =>
      match Ipfs.Settings.ofEnvironment g.environment with
      | .error why => throw (.storageSettings why)
      | .ok settings => ofAction (Ipfs.connect g.network g.workers settings)

def indexer (g : Ground W) (s : Settings) : Attempt W (Indexer W) :=
  match s.indexer with
  | .memory => pure g.memory.indexer
  | .elasticsearch =>
      match Elastic.Settings.ofEnvironment g.environment with
      | .error why => throw (.indexerSettings why)
      | .ok settings => ofAction (Elastic.Engine.connect ⟨g.network, settings, g.freshId⟩)

/-- Creates indexes one after the other. -/
def createIndexes (b : Backends W) : List IndexConfig -> Action W Unit
  | [] => pure ()
  | index :: rest => do
      let _ ← Service.createIndex b index.name (some index.configuration)
      createIndexes b rest

def run (g : Ground W) (s : Settings) : Attempt W (Backends W) := do
  let storage ← storage g s
  let indexer ← indexer g s
  let b : Backends W := ⟨storage, indexer⟩
  ofAction (createIndexes b s.indexConfigs)
  pure b

/-- The reconciler runs unless its period is zero. -/
def reconciles (s : Settings) : Bool :=
  s.reconcilerPeriod.nanoseconds ≠ 0

end Startup
end ContentGateway
