import ContentGateway.BlobStore
import ContentGateway.Catalog.Indexer

/-!
# The depot

All backends held in memory: a blob store, a catalog and replicas.  Every call is
entered in a journal.  Calls can be made to fail: by a fault under their name, by a
window that searches must not look beyond, and by the moods of the replicas.
-/

namespace ContentGateway

/-- A replica held in memory. -/
structure Replica where
  name : String
  tracked : Table Unit
  /-- Content that it will not pin. -/
  refused : List String
  /-- So many pins of each content fail before one succeeds. -/
  failures : Nat
  /-- How many pins of each content have failed this way. -/
  failed : Table Nat
  /-- It cannot unpin. -/
  stuck : Bool

namespace Replica

/-- A replica that never fails. -/
def of (name : String) : Replica :=
  ⟨name, [], [], 0, [], false⟩

def pin (r : Replica) (id : String) : Except Failure Unit × Replica :=
  let failed := (Table.get? r.failed id).getD 0
  if r.refused.contains id then (.error (.technical ("refused " ++ id) none), r)
  else if failed < r.failures then
    (.error (.technical ("transient failure pinning " ++ id) none),
      { r with failed := Table.insert r.failed id (failed + 1) })
  else (.ok (), { r with tracked := Table.insert r.tracked id () })

def unpin (r : Replica) (id : String) : Except Failure Unit × Replica :=
  if r.stuck then (.error (.technical (r.name ++ " cannot unpin " ++ id) none), r)
  else (.ok (), { r with tracked := Table.erase r.tracked id })

def tracks (r : Replica) (id : String) : Bool :=
  Table.contains r.tracked id

end Replica

structure Depot where
  blobs : BlobStore
  catalog : Catalog
  replicas : List Replica
  /-- Failures by the names of the calls that they strike. -/
  faults : Table Failure
  /-- Searches fail that look beyond this many documents. -/
  window : Option Nat
  /-- The calls made so far, the last one first. -/
  journal : List String

namespace Depot

/-- A depot without content and documents. -/
def ofReplicas (replicas : List Replica) : Depot :=
  ⟨.empty, .empty, replicas, [], none, []⟩

/-!
# Calls
-/

/-- Enters a call in the journal; it goes on unless a fault strikes it. -/
def call (name detail : String) : Action Depot Unit := do
  modify fun d => { d with journal := (name ++ detail) :: d.journal }
  match Table.get? (← get).faults name with
  | some failure => throw failure
  | none => pure ()

/-- A call that may fail without an effect. -/
def attempt (run : Depot -> Except Failure (α × Depot)) : Action Depot α := do
  match run (← get) with
  | .error failure => throw failure
  | .ok (answer, d) =>
      set d
      pure answer

def onBlobs (run : BlobStore -> Except Failure (α × BlobStore)) : Action Depot α :=
  attempt fun d => (run d.blobs).map fun r => (r.1, { d with blobs := r.2 })

/-- A call on the catalog of a depot. -/
def onCatalog (call : Action Catalog α) : Action Depot α :=
  fun d => let (answer, c) := call d.catalog; (answer, { d with catalog := c })

/-- Runs a call on the replica at a position; the replica keeps its effects when the call fails. -/
def onReplica (position : Nat) (run : Replica -> Except Failure Unit × Replica) :
    Action Depot Unit := do
  match (← get).replicas[position]? with
  | none => pure ()
  | some r =>
      let (answer, changed) := run r
      modify fun d => { d with replicas := d.replicas.set position changed }
      answer

/-!
# The backends
-/

def pinTarget (position : Nat) (name : String) : PinTarget Depot where
  name := name
  pin id := do
    call (name ++ ".pin") (" " ++ id)
    onReplica position fun r => r.pin id
  unpin id := do
    call (name ++ ".unpin") (" " ++ id)
    onReplica position fun r => r.unpin id
  tracked := do
    match (← get).replicas[position]? with
    | none => pure []
    | some r => pure (Table.keys r.tracked)

/-- The pin targets for replicas of the given names, in order. -/
def pinTargets (names : List String) : List (PinTarget Depot) :=
  names.zipIdx.map fun n => pinTarget n.2 n.1

/-- The part of a read that comes before the content is fetched. -/
def beginRead (id : String) : Action Depot Unit :=
  call "storage.read" (" " ++ id)

def fetchBlob (id : String) : Action Depot Bytes :=
  onBlobs fun s => (s.read id).map fun content => (content, s)

def read (id : String) : Action Depot Bytes := do
  beginRead id
  fetchBlob id

def readAll : List String -> StateM Depot (List (Except Failure Bytes))
  | [] => pure []
  | id :: rest => do
      let content ← (read id).outcome
      let others ← readAll rest
      pure (content :: others)

/-- A fault makes the storage unhealthy; a validation failure says nothing more about it. -/
def check : StateM Depot Health := do
  match ← (call "storage.check" "").outcome with
  | .ok _ => pure .good
  | .error (.validation _) => pure ⟨false, none, none⟩
  | .error failure => pure (.bad "storage is unreachable" failure.display)

def storage (replicas : List String) : Storage Depot where
  name := "memory"
  write content := do
    call "storage.write" ""
    onBlobs fun s => .ok (s.write content)
  writeStream content := do
    call "storage.write_stream" ""
    onBlobs fun s => s.writeStream content
  read := read
  readAll := readAll
  pin id := do
    call "storage.pin" (" " ++ id)
    onBlobs fun s => (s.pin id).map fun s => ((), s)
  unpin id := do
    call "storage.unpin" (" " ++ id)
    onBlobs fun s => .ok ((), s.unpin id)
  pinned := do
    call "storage.list_pinned" ""
    onBlobs fun s => .ok (s.listPinned, s)
  replicas := pinTargets replicas
  check := check

/-- Refuses a search that looks beyond the window. -/
def withinWindow (request : PageRequest) : Action Depot Unit := do
  match (← get).window with
  | some w =>
      if request.offset + request.size > w then
        throw (.technical "result window is too large" none)
  | none => pure ()

/-- The place of a document as the journal shows it. -/
def place (index id : String) : String :=
  " " ++ index ++ "/" ++ id

def indexer : Indexer Depot where
  name := Catalog.indexer.name
  createIndex index configuration := do
    call "indexer.create_index" (" " ++ index)
    onCatalog (Catalog.indexer.createIndex index configuration)
  indexNames := do
    call "indexer.get_indexes" ""
    onCatalog Catalog.indexer.indexNames
  put index id contentId contentType fields := do
    call "indexer.index" (place index (id.getD "-"))
    onCatalog (Catalog.indexer.put index id contentId contentType fields)
  remove index id := do
    call "indexer.deindex" (place index id)
    onCatalog (Catalog.indexer.remove index id)
  fetch index id := do
    call "indexer.get_document" (place index id)
    onCatalog (Catalog.indexer.fetch index id)
  setField index id key value := do
    call "indexer.update_field" (place index id ++ " " ++ key ++ "=" ++ value.compact)
    onCatalog (Catalog.indexer.setField index id key value)
  search index query request := do
    call "indexer.search" (" " ++ index.getD "*" ++ " " ++ toString request.offset ++ "+"
      ++ toString request.size)
    withinWindow request
    onCatalog (Catalog.indexer.search index query request)

/-- The backends of a depot with replicas of the given names. -/
def backends (replicas : List String) : Backends Depot :=
  ⟨storage replicas, indexer⟩

end Depot
end ContentGateway
