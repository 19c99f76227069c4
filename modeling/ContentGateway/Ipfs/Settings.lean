import ContentGateway.Duration
import ContentGateway.Ipfs.HostList
import ContentGateway.Ipfs.Multiaddress
import ContentGateway.Ipfs.Secret
import ContentGateway.WorkerPool

/-!
# Settings of the content storage

Which node stores content, how long a call to it may take, and which further nodes,
clusters and services keep copies.
-/

namespace ContentGateway
namespace Ipfs

/-- An account with a pinning service. -/
structure PinataAccount where
  url : Url
  apiKey : String
  secret : String

structure Settings where
  endpoint : Url
  /-- How long a call may take. -/
  limit : Duration
  poolSize : Nat
  /-- Further nodes. -/
  nodes : List Url
  clusters : List Url
  pinata : Option PinataAccount

namespace Settings

def nodePort : Nat := 5001
def clusterPort : Nat := 9094

/-- A number up to `largest` under a name. -/
def number (env : Environment) (name : String) (largest usual : Nat) : Except ConfigError Nat :=
  match env.text? name with
  | none => .ok usual
  | some text =>
      match Decimal.natural? largest text with
      | some n => .ok n
      | none => .error (.invalidNumber name text)

def hosts (env : Environment) (name : String) (usualPort : Nat) : Except ConfigError (List Url) :=
  HostList.urls usualPort ((env.text? name).getD "")

/-- The node is given by a multiaddress or else by host and port. -/
def endpointOf (env : Environment) : Except ConfigError Url :=
  match env.text? "IPFS_MULTIADDRESS" with
  | some address => urlOfMultiaddress address
  | none => do
      let port ← number env "IPFS_PORT" Environment.largestPort nodePort
      hostUrl ((env.text? "IPFS_HOST").getD "localhost") port

/-- An account is used if both its key and its secret are given. -/
def pinataOf (env : Environment) : Except ConfigError (Option PinataAccount) :=
  match env.text? "PINATA_API_KEY", env.text? "PINATA_SECRET_API_KEY" with
  | some key, some secret =>
      match Url.parse? ((env.text? "PINATA_URL").getD "https://api.pinata.cloud") with
      | some url => .ok (some ⟨url, key, secret⟩)
      | none => .error (.invalidUrl "PINATA_URL" withheld)
  | _, _ => .ok none

def ofEnvironment (env : Environment) : Except ConfigError Settings := do
  let endpoint ← endpointOf env
  let limit ← number env "IPFS_TIMEOUT_MS" largestWord 10000
  let poolSize ← number env "IPFS_THREAD_POOL" largestWord WorkerPool.standardSize
  let nodes ← hosts env "IPFS_REPLICAS" nodePort
  let clusters ← hosts env "IPFS_CLUSTER_REPLICAS" clusterPort
  let pinata ← pinataOf env
  pure ⟨endpoint, .ofMillis limit, poolSize, nodes, clusters, pinata⟩

/-- A node on this machine without copies elsewhere. -/
def localNode (port : Nat) : Except ConfigError Settings := do
  let endpoint ← hostUrl "127.0.0.1" port
  pure ⟨endpoint, .ofSeconds 2, 4, [], [], none⟩

end Settings
end Ipfs
end ContentGateway
