import ContentGateway.Depot
import ContentGateway.Http.Network
import ContentGateway.Workers

/-!
# Isolation

A world without others: backends held in memory, a pool of workers whose clock tells
the time, and a network that reaches nobody.
-/

namespace ContentGateway

structure Isolation where
  depot : Depot
  pool : WorkerPool

namespace Isolation

/-- The world with replicas of the given names and so many workers. -/
def of (replicas : List String) (workers : Nat) : Isolation :=
  ⟨.ofReplicas (replicas.map Replica.of), .of "ipfs" workers⟩

def onDepot (call : StateM Depot α) : StateM Isolation α :=
  fun w => let (answer, d) := call w.depot; (answer, { w with depot := d })

/-- Only time passes in this network. -/
def network : Http.Network Isolation :=
  .unreachable fun pause => modify fun w => { w with pool := w.pool.advance pause.millis }

def workers : Workers Isolation :=
  .ofPool Isolation.pool fun w pool => { w with pool }

/-- An id for a document; none is ever stored elsewhere. -/
def freshId : StateM Isolation String :=
  pure (Catalog.generatedId 1)

/-- The backends in memory. -/
def memory (replicas : List String) : Backends Isolation :=
  Backends.lift onDepot (Depot.backends replicas)

end Isolation
end ContentGateway
