import ContentGateway.Backend
import ContentGateway.ContentType

/-!
# The operations of the gateway

Each operation checks its request, then calls the backends in a fixed order.
Indexing writes the content, then the document, and leaves a replication behind:
pinning the content on every replica and, if all pins succeed, flagging the document
as pinned.  Removing a document is strict the other way round: the document goes
first, and a replica that cannot unpin its content makes the operation fail.
-/

namespace ContentGateway
namespace Service

variable {W : Type}

/-!
# Administration
-/

def createIndex (b : Backends W) (name : String) (configuration : Option Json) :
    Action W Acknowledgement := do
  requireText "name" (some name)
  b.indexer.createIndex name configuration
  pure .ok

def indexNames (b : Backends W) : Action W IndexList := do
  let names ← b.indexer.indexNames
  pure ⟨.success, names⟩

/-!
# Indexing
-/

/-- The rules of an indexing request: an index name and, for content stored before, its identity. -/
def validate (request : IndexRequest) : Except Failure Unit := do
  match request.header? with
  | some header => requireText "index" (some header.index)
  | none => pure ()
  match request with
  | .reference _ contentId => requireText "content_id" (some contentId)
  | _ => pure ()

/-- Writes content and resolves its type: the declared one, or else the one it seems to have. -/
def store (b : Backends W) (content : Source) (declared : Option String) :
    Action W (String × Option String) := do
  let declared := nonBlank declared
  match content with
  | .bytes bytes =>
      let id ← b.storage.write bytes
      pure (id, declared <|> ContentType.sniff bytes)
  | .stream stream =>
      match declared with
      | some type =>
          let id ← b.storage.writeStream stream
          pure (id, some type)
      | none =>
          let (head, replay) := stream.peek ContentType.sampleSize
          let id ← b.storage.writeStream replay
          pure (id, ContentType.sniff head)

/-- The pins that an indexed document still needs. -/
structure Replication where
  index : String
  id : String
  contentId : String
  deriving DecidableEq, Repr

/-- Pins the content on every replica; the document is flagged if all succeed. -/
def replicate (b : Backends W) (job : Replication) : StateM W Unit := do
  let pinned ← pinEverywhere b.storage.replicas job.contentId
  if pinned then
    let _ ← (b.indexer.setField job.index job.id pinnedKey (.bool true)).outcome

/-- Writes the document for stored content and names the replication to follow. -/
def enter (b : Backends W) (header : Header) (contentId : String) :
    Action W (IndexResponse × Option Replication) := do
  let id ← b.indexer.put header.index header.id (some contentId) header.contentType header.fields
  pure (⟨.success, some header.index, some id, contentId, header.contentType, header.fields⟩,
    some ⟨header.index, id, contentId⟩)

/-- Stores the content, unless it is stored already, and indexes it. -/
def index (b : Backends W) (request : IndexRequest) :
    Action W (IndexResponse × Option Replication) := do
  validate request
  match request with
  | .storeOnly content =>
      let (contentId, _) ← store b content none
      pure (⟨.success, none, none, contentId, none, []⟩, none)
  | .store header content =>
      let (contentId, type) ← store b content header.contentType
      enter b { header with contentType := type } contentId
  | .text header content =>
      let (contentId, type) ← store b (.bytes (Utf8.ofString content)) header.contentType
      enter b { header with contentType := type } contentId
  | .reference header contentId => enter b header contentId

/-- Indexing with the replication that it leaves behind. -/
def indexAndReplicate (b : Backends W) (request : IndexRequest) : Action W IndexResponse := do
  let (response, job) ← index b request
  match job with
  | some job => replicate b job
  | none => pure ()
  pure response

/-!
# Removing documents
-/

/-- The number of documents looked at in one go among those that share content. -/
def sharedPageSize : Nat := 50

/-- Flags documents as not pinned; one that cannot be flagged is passed over. -/
def unflagAll (b : Backends W) : List Metadata -> StateM W Unit
  | [] => pure ()
  | m :: rest => do
      let _ ← (b.indexer.setField m.index m.id pinnedKey (.bool false)).outcome
      unflagAll b rest

/-- Walks on through the documents that satisfy a query, over at most `pages` pages more. -/
def unflagPages (b : Backends W) (query : Query) : Nat -> PageRequest -> StateM W Unit
  | 0, _ => pure ()
  | pages + 1, request => do
      match ← (b.indexer.search none query request).outcome with
      | .error _ => pure ()
      | .ok page =>
          unflagAll b page.elements
          if page.isLast then pure () else unflagPages b query pages page.nextRequest

/--
Flags every document that holds the content as not pinned, so that it will be pinned
again.  A search that fails ends the walk.  The first page tells how many there are.
-/
def releaseShared (b : Backends W) (contentId : String) : StateM W Unit := do
  let query := Query.empty.equals hashKey (.string contentId)
  let request := PageRequest.standard.withSize sharedPageSize
  match ← (b.indexer.search none query request).outcome with
  | .error _ => pure ()
  | .ok page =>
      unflagAll b page.elements
      if page.isLast then pure ()
      else unflagPages b query page.totalPages page.nextRequest

/-- Unpins the content of a removed document everywhere; a replica that fails makes this fail. -/
def release (b : Backends W) (contentId : String) : Action W Unit := do
  let failure ← unpinEverywhere b.storage.replicas contentId
  if !b.storage.replicas.isEmpty then
    releaseShared b contentId
  match failure with
  | some failure => throw failure
  | none => pure ()

/-- Removes a document, then unpins its content from every replica. -/
def deindex (b : Backends W) (index id : String) : Action W Acknowledgement := do
  requireText "index" (some index)
  requireText "id" (some id)
  let metadata ← b.indexer.fetch index id
  b.indexer.remove index id
  match metadata.contentId with
  | some contentId => release b contentId
  | none => pure ()
  pure .ok

/-!
# Looking up
-/

/-- The first document in scope that describes the given content. -/
def findByContent (b : Backends W) (index : Option String) (contentId : String) :
    Action W Metadata := do
  let query := Query.empty.equals hashKey (.string contentId)
  let page ← b.indexer.search index query .single
  match page.elements with
  | metadata :: _ => pure metadata
  | [] => throw (.notFound ("content " ++ contentId ++ " is not indexed"))

/-- The document that a look-up asks for: by id if one is given, else by content. -/
def locate (b : Backends W) (request : GetRequest) : Action W Metadata :=
  let index := nonBlank request.index
  match nonBlank request.id, nonBlank request.contentId with
  | some id, _ => do
      requireText "index" index
      b.indexer.fetch (index.getD "") id
  | none, some contentId => findByContent b index contentId
  | none, none =>
      throw (.validation "either an index document id or a content id is required")

def get (b : Backends W) (request : GetRequest) : Action W GetResponse := do
  let metadata ← locate b request
  match request.loadFile, metadata.contentId with
  | true, some contentId =>
      let payload ← b.storage.read contentId
      pure ⟨.success, ⟨metadata, some payload⟩⟩
  | _, _ => pure ⟨.success, ⟨metadata, none⟩⟩

/-!
# Searching
-/

/-- Puts payloads beside the documents they were read for; documents without content have none. -/
def attach : List Metadata -> List (Except Failure Bytes) -> List Hit
  | [], _ => []
  | m :: rest, payloads =>
      match m.contentId, payloads with
      | some _, payload :: more => ⟨m, payload.toOption⟩ :: attach rest more
      | _, payloads => ⟨m, none⟩ :: attach rest payloads

/-- A page of documents; content that cannot be read is left out and does not make the search fail. -/
def search (b : Backends W) (request : SearchRequest) : Action W SearchResponse := do
  match request.page with
  | none => throw (.validation "pageRequest shouldn't be null")
  | some pageRequest =>
      let page ← b.indexer.search (nonBlank request.index) request.query pageRequest
      let payloads ←
        if request.loadFile then
          b.storage.readAll (page.elements.filterMap fun m => m.contentId)
        else pure []
      let hits := attach page.elements payloads
      pure ⟨.success, ⟨page.request, hits, page.totalElements, page.totalPages⟩⟩

/-!
# Changing fields
-/

def updateField (b : Backends W) (request : UpdateRequest) : Action W Acknowledgement := do
  requireText "index" (some request.index)
  requireText "id" (some request.id)
  requireText "key" (some request.key)
  b.indexer.setField request.index request.id request.key request.value
  pure .ok

end Service
end ContentGateway
