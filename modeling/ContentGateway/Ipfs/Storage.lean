import ContentGateway.Ipfs.Cluster
import ContentGateway.Ipfs.Pinata
import ContentGateway.Workers

/-!
# Storage on a node

Content is stored on a node without being pinned there; the node is the first of the
pin targets.  Workers write and read content, each within a time limit.
-/

namespace ContentGateway
namespace Ipfs

variable {W : Type}

def addWithin (workers : Workers W) (c : Caller W) (limit : Duration) (content : Bytes) :
    Action W String := do
  let added ← workers.run "ipfs add" limit (Node.add c content false).action
  pure added.hash

def readWithin (workers : Workers W) (c : Caller W) (limit : Duration) (id : String) :
    Action W Bytes :=
  workers.run "ipfs cat" limit (Node.cat c id).action

/-- A stream is read to its end before anything is stored. -/
def addStream (workers : Workers W) (c : Caller W) (limit : Duration) (content : Stream) :
    Action W String :=
  match content.content? with
  | some bytes => addWithin workers c limit bytes
  | none => throw (Error.io (Node.endpoint "add") Stream.brokenText).failure

def readEach (read : String -> Action W Bytes) :
    List String -> StateM W (List (Except Failure Bytes))
  | [] => pure []
  | id :: ids => do
      let content ← (read id).outcome
      let others ← readEach read ids
      pure (content :: others)

def check (c : Caller W) : StateM W Health := do
  match ← (Node.version c).run with
  | .ok _ => pure .good
  | .error e => pure (.bad (Node.name c ++ " is unreachable") e.display)

/-- The storage on a node with further pin targets. -/
def storage (workers : Workers W) (c : Caller W) (limit : Duration)
    (others : List (PinTarget W)) : Storage W where
  name := Node.name c
  write := addWithin workers c limit
  writeStream := addStream workers c limit
  read := readWithin workers c limit
  readAll := readEach (readWithin workers c limit)
  pin id := (Node.pin c id).action
  unpin id := (Node.unpin c id).action
  pinned := (Node.pins c).action
  replicas := Node.target c :: others
  check := check c

/-- Connects to the node, then to every other pin target. -/
def connect (network : Http.Network W) (workers : Workers W) (s : Settings) :
    Action W (Storage W) := do
  let caller (url : Url) : Caller W := ⟨network, url, s.limit, []⟩
  let main := caller s.endpoint
  let _ ← Node.connect main
  let nodes ← s.nodes.mapM fun url => Node.connect (caller url)
  let clusters ← s.clusters.mapM fun url => Cluster.connect (caller url)
  let services ← s.pinata.toList.mapM (Pinata.connect network s.limit)
  pure (storage workers main s.limit (nodes ++ clusters ++ services))

end Ipfs
end ContentGateway
