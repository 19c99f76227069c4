import ContentGateway.Proofs.Service.Replication

/-!
# The effects of an indexing

An indexing writes content, then a document, then pins the content on every replica, and at
last sets the flag of the document.  Here this is one equation on a depot, in which every
call may fail, and it tells which calls are made and in which order.
-/

namespace ContentGateway

/-!
# Content in the storage
-/

def Source.call : Source -> String
  | .bytes _ => "storage.write"
  | .stream _ => "storage.write_stream"

def BlobStore.keep (s : BlobStore) : Source -> Except Failure (String × BlobStore)
  | .bytes content => .ok (s.write content)
  | .stream content => s.writeStream content

structure Stored where
  contentId : String
  contentType : Option String
  blobs : BlobStore

def IndexRequest.writes : IndexRequest -> List String
  | .store _ content | .storeOnly content => [content.call]
  | .text _ _ => ["storage.write"]
  | .reference _ _ => []

namespace Service

variable {W : Type}

def keep (s : Storage W) : Source -> Action W String
  | .bytes content => s.write content
  | .stream content => s.writeStream content

/--
Content as it is written, with the type that it is taken to have.  A stream without a
declared type has been read ahead and delivers again what was read.
-/
def inspected : Source -> Option String -> Source × Option String
  | .bytes content, declared => (.bytes content, declared <|> ContentType.sniff content)
  | .stream content, some type => (.stream content, some type)
  | .stream content, none =>
      (.stream (content.peek ContentType.sampleSize).2,
        ContentType.sniff (content.peek ContentType.sampleSize).1)

theorem store_eq (b : Backends W) (content : Source) (declared : Option String) :
    store b content declared =
      (do
        let id ← keep b.storage (inspected content (nonBlank declared)).1
        pure (id, (inspected content (nonBlank declared)).2)) := by
  unfold store
  cases content with
  | bytes content => rfl
  | stream content =>
      cases nonBlank declared with
      | none => rfl
      | some type => rfl

theorem call_inspected (content : Source) (declared : Option String) :
    (inspected content declared).1.call = content.call := by
  cases content with
  | bytes content => rfl
  | stream content =>
      cases declared with
      | none => rfl
      | some type => rfl

end Service

namespace Depot

open Service

def written (d : Depot) (content : Source) : Except Failure (String × BlobStore) :=
  match d.fault content.call with
  | .error failure => .error failure
  | .ok _ => d.blobs.keep content

def stored (d : Depot) (content : Source) (declared : Option String) : Except Failure Stored :=
  (d.written (inspected content (nonBlank declared)).1).map fun w =>
    ⟨w.1, (inspected content (nonBlank declared)).2, w.2⟩

/-- What the storage makes of a request; content that is referred to by its identity is there. -/
def obtained (d : Depot) : IndexRequest -> Except Failure Stored
  | .store header content => d.stored content header.contentType
  | .text header content => d.stored (.bytes (Utf8.ofString content)) header.contentType
  | .storeOnly content => d.stored content none
  | .reference header contentId => .ok ⟨contentId, header.contentType, d.blobs⟩

def afterWrite (d : Depot) (writes : List String) (result : Except Failure Stored) : Depot :=
  match result with
  | .error _ => d.journaled writes
  | .ok stored => (d.withBlobs stored.blobs).journaled writes

theorem keep_apply (names : List String) (content : Source) (d : Depot) :
    keep (storage names) content d =
      match d.written content with
      | .error failure => (.error failure, d.journaled [content.call])
      | .ok (id, blobs) => (.ok id, (d.withBlobs blobs).journaled [content.call]) := by
  have hrun : keep (storage names) content =
      (do call content.call ""; onBlobs fun s => s.keep content) := by
    cases content with
    | bytes content => rfl
    | stream content => rfl
  unfold written
  rw [hrun, Action.bind_apply, call_apply, String.append_empty]
  cases d.fault content.call with
  | error failure => rfl
  | ok _ =>
      simp only
      rw [onBlobs_apply, journaled_blobs]
      cases d.blobs.keep content with
      | error failure => rfl
      | ok answer => rfl

theorem store_apply (names : List String) (content : Source) (declared : Option String)
    (d : Depot) :
    store (backends names) content declared d =
      ((d.stored content declared).map fun stored => (stored.contentId, stored.contentType),
        d.afterWrite [content.call] (d.stored content declared)) := by
  have hkeep := keep_apply names (inspected content (nonBlank declared)).1 d
  rw [call_inspected] at hkeep
  rw [store_eq, Action.bind_apply]
  unfold backends
  rw [hkeep]
  unfold stored
  cases d.written (inspected content (nonBlank declared)).1 with
  | error failure => rfl
  | ok answer => rfl

/-!
# The document
-/

def putEntry (header : Header) : String :=
  "indexer.index" ++ place header.index (header.id.getD "-")

def entered (d : Depot) (header : Header) (stored : Stored) :
    Except Failure (String × Catalog) :=
  match d.fault "indexer.index" with
  | .error failure => .error failure
  | .ok _ =>
      d.catalog.put header.index header.id (some stored.contentId) stored.contentType header.fields

theorem enter_apply (names : List String) (header : Header) (stored : Stored) (d : Depot) :
    enter (backends names) { header with contentType := stored.contentType } stored.contentId d =
      match d.entered header stored with
      | .error failure => (.error failure, d.journaled [putEntry header])
      | .ok (docId, catalog) =>
          (.ok (⟨.success, some header.index, some docId, stored.contentId, stored.contentType,
              header.fields⟩, some ⟨header.index, docId, stored.contentId⟩),
            (d.withCatalog catalog).journaled [putEntry header]) := by
  unfold enter entered
  rw [Action.bind_apply, backends_indexer]
  unfold indexer
  simp only
  rw [catalogCall_apply]
  cases d.fault "indexer.index" with
  | error failure => rfl
  | ok _ =>
      simp only [Catalog.indexer, Catalog.call_apply]
      cases d.catalog.put header.index header.id (some stored.contentId) stored.contentType
          header.fields with
      | error failure => rfl
      | ok answer => rfl

/-!
# The flag
-/

theorem journal_settled (d : Depot) (job : Replication) :
    (settled d job).journal =
      (if allPinned d job.contentId then
          [setFieldEntry job.index job.id pinnedKey (.bool true)]
        else [])
        ++ (d.replicas.map fun r => askEntry ".pin" job.contentId r.name).reverse
        ++ d.journal := by
  unfold settled
  cases allPinned d job.contentId with
  | false => rfl
  | true => rfl

theorem replicas_settled (d : Depot) (job : Replication) :
    (settled d job).replicas =
      d.replicas.map fun r => (answer d.faults ".pin" (fun r => r.pin job.contentId) r).2 := by
  unfold settled
  cases allPinned d job.contentId with
  | false => rfl
  | true => rfl

theorem catalog_settled (d : Depot) (job : Replication) :
    (settled d job).catalog =
      if allPinned d job.contentId && (d.fault "indexer.update_field").isOk then
        d.catalog.flag (lowerCase job.index) job.id true
      else d.catalog := by
  unfold settled flagCalled
  cases allPinned d job.contentId with
  | false => rfl
  | true =>
      cases d.fault "indexer.update_field" with
      | error failure => rfl
      | ok _ => rfl

theorem others_settled (d : Depot) (job : Replication) :
    (settled d job).blobs = d.blobs ∧ (settled d job).faults = d.faults ∧
      (settled d job).window = d.window := by
  unfold settled
  cases allPinned d job.contentId with
  | false => exact ⟨rfl, rfl, rfl⟩
  | true => exact ⟨rfl, rfl, rfl⟩

end Depot

/-!
# The whole indexing
-/

namespace Service

open Depot

theorem index_apply {request : IndexRequest} (h : validate request = .ok ()) (names : List String)
    (d : Depot) :
    index (backends names) request d =
      match d.obtained request, request.header? with
      | .error failure, _ => (.error failure, d.journaled request.writes)
      | .ok stored, none =>
          (.ok (⟨.success, none, none, stored.contentId, none, []⟩, none),
            (d.withBlobs stored.blobs).journaled request.writes)
      | .ok stored, some header =>
          enter (backends names) { header with contentType := stored.contentType }
            stored.contentId ((d.withBlobs stored.blobs).journaled request.writes) := by
  unfold index
  rw [h, Action.bind_apply, Action.check_apply]
  simp only
  cases request with
  | reference header contentId => rfl
  | storeOnly content =>
      simp only [obtained, IndexRequest.header?, IndexRequest.writes]
      rw [Action.bind_apply, store_apply]
      cases d.stored content none with
      | error failure => rfl
      | ok stored => rfl
  | store header content =>
      simp only [obtained, IndexRequest.header?, IndexRequest.writes]
      rw [Action.bind_apply, store_apply]
      cases d.stored content header.contentType with
      | error failure => rfl
      | ok stored => rfl
  | text header content =>
      simp only [obtained, IndexRequest.header?, IndexRequest.writes]
      rw [Action.bind_apply, store_apply]
      cases d.stored (.bytes (Utf8.ofString content)) header.contentType with
      | error failure => rfl
      | ok stored => rfl

def documented (d : Depot) (calls : List String) (stored : Stored) (catalog : Catalog) : Depot :=
  ((d.withBlobs stored.blobs).withCatalog catalog).journaled calls

theorem indexAndReplicate_apply {request : IndexRequest} (h : validate request = .ok ())
    (d : Depot) :
    indexAndReplicate (backends d.replicaNames) request d =
      match d.obtained request, request.header? with
      | .error failure, _ => (.error failure, d.journaled request.writes)
      | .ok stored, none =>
          (.ok ⟨.success, none, none, stored.contentId, none, []⟩,
            (d.withBlobs stored.blobs).journaled request.writes)
      | .ok stored, some header =>
          match d.entered header stored with
          | .error failure =>
              (.error failure,
                (d.withBlobs stored.blobs).journaled (putEntry header :: request.writes))
          | .ok (docId, catalog) =>
              (.ok ⟨.success, some header.index, some docId, stored.contentId, stored.contentType,
                  header.fields⟩,
                settled (documented d (putEntry header :: request.writes) stored catalog)
                  ⟨header.index, docId, stored.contentId⟩) := by
  unfold indexAndReplicate
  rw [Action.bind_apply, index_apply h]
  cases d.obtained request with
  | error failure => rfl
  | ok stored =>
      cases request.header? with
      | none => rfl
      | some header =>
          simp only
          rw [enter_apply]
          have hentered : ((d.withBlobs stored.blobs).journaled request.writes).entered header
              stored = d.entered header stored := rfl
          rw [hentered]
          cases d.entered header stored with
          | error failure => rfl
          | ok answer =>
              rcases answer with ⟨docId, catalog⟩
              simp only
              rw [Action.bind_apply, Action.sure_apply]
              have hnames : d.replicaNames =
                  (documented d (putEntry header :: request.writes) stored
                    catalog).replicaNames := rfl
              have hdocumented : (((d.withBlobs stored.blobs).journaled request.writes).withCatalog
                  catalog).journaled [putEntry header] =
                    documented d (putEntry header :: request.writes) stored catalog := rfl
              rw [hdocumented, hnames, replicate_settled]
              rfl

/-!
# Calls in order
-/

/-- What follows once the document of a request has been written under `docId`. -/
structure Followed (d : Depot) (request : IndexRequest) (header : Header) (stored : Stored)
    (docId : String) (catalog : Catalog) (outcome : Except Failure IndexResponse × Depot) :
    Prop where
  /-- The answer is settled, whatever the replicas answer. -/
  answer : outcome.1 = .ok ⟨.success, some header.index, some docId, stored.contentId,
    stored.contentType, header.fields⟩
  /-- Every replica is asked once, and the flag is called for if all pins have succeeded. -/
  calls : outcome.2.journal =
    (if allPinned d stored.contentId then
        [setFieldEntry header.index docId pinnedKey (.bool true)]
      else [])
      ++ (d.replicas.map fun r => askEntry ".pin" stored.contentId r.name).reverse
      ++ [putEntry header] ++ request.writes ++ d.journal
  /-- Each replica pins the content for itself, also after another one has failed. -/
  replicas : outcome.2.replicas = d.replicas.map fun r =>
    (Depot.answer d.faults ".pin" (fun r => r.pin stored.contentId) r).2
  catalog : outcome.2.catalog =
    if allPinned d stored.contentId && (d.fault "indexer.update_field").isOk then
      catalog.flag (lowerCase header.index) docId true
    else catalog
  others : outcome.2.blobs = stored.blobs ∧ outcome.2.faults = d.faults ∧
    outcome.2.window = d.window

/-- The calls that an indexing makes, what they leave behind, and the answer. -/
structure IndexEffects (d : Depot) (request : IndexRequest)
    (outcome : Except Failure IndexResponse × Depot) : Prop where
  /-- A write that fails is the only call, and its failure is the answer. -/
  unwritten : forall {failure}, d.obtained request = .error failure ->
    outcome = (.error failure, d.journaled request.writes)
  /-- Without a document to write the write is the only call. -/
  storedOnly : forall {stored}, d.obtained request = .ok stored -> request.header? = none ->
    outcome = (.ok ⟨.success, none, none, stored.contentId, none, []⟩,
      (d.withBlobs stored.blobs).journaled request.writes)
  /-- A document that cannot be written: the failure is the answer, and no replica is asked. -/
  unentered : forall {stored header failure}, d.obtained request = .ok stored ->
    request.header? = some header -> d.entered header stored = .error failure ->
      outcome = (.error failure,
        (d.withBlobs stored.blobs).journaled ([putEntry header] ++ request.writes))
  entered : forall {stored header docId catalog}, d.obtained request = .ok stored ->
    request.header? = some header -> d.entered header stored = .ok (docId, catalog) ->
      Followed d request header stored docId catalog outcome

theorem followed_settled (d : Depot) (request : IndexRequest) (header : Header) (stored : Stored)
    (docId : String) (catalog : Catalog) :
    Followed d request header stored docId catalog
      (.ok ⟨.success, some header.index, some docId, stored.contentId, stored.contentType,
          header.fields⟩,
        settled (documented d (putEntry header :: request.writes) stored catalog)
          ⟨header.index, docId, stored.contentId⟩) where
  answer := rfl
  calls := by
    rw [journal_settled, List.append_assoc _ [putEntry header], List.append_assoc _ _ d.journal]
    rfl
  replicas := replicas_settled _ _
  catalog := catalog_settled _ _
  others := others_settled _ _

/--
The calls of an indexing in their order, in a depot in any state, whatever calls are made to
fail and however the replicas answer.
-/
theorem index_effects {request : IndexRequest} (h : validate request = .ok ()) (d : Depot) :
    IndexEffects d request (indexAndReplicate (backends d.replicaNames) request d) := by
  rw [indexAndReplicate_apply h]
  constructor
  · intro failure hfailure
    rw [hfailure]
  · intro stored hstored hheader
    rw [hstored, hheader]
  · intro stored header failure hstored hheader hfailure
    rw [hstored, hheader]
    simp only
    rw [hfailure]
    rfl
  · intro stored header docId catalog hstored hheader hentered
    rw [hstored, hheader]
    simp only
    rw [hentered]
    exact followed_settled d request header stored docId catalog

def refusingPair : Depot :=
  ⟨.empty, ⟨[("files", ⟨none, []⟩)], 0⟩,
    [⟨"first", [], ["a"], 0, [], false⟩, Replica.of "second"], [], none, []⟩

theorem index_effects_refusingPair :
    validate (.reference ⟨"files", some "1", none, []⟩ "a") = .ok () ∧
      (indexAndReplicate (backends refusingPair.replicaNames)
        (.reference ⟨"files", some "1", none, []⟩ "a") refusingPair).1 =
          .ok ⟨.success, some "files", some "1", "a", none, []⟩ ∧
      (indexAndReplicate (backends refusingPair.replicaNames)
        (.reference ⟨"files", some "1", none, []⟩ "a") refusingPair).2.journal =
          ["second.pin a", "first.pin a", "indexer.index files/1"] := by
  have hvalid : validate (.reference ⟨"files", some "1", none, []⟩ "a") = .ok () := rfl
  have hentered : refusingPair.entered ⟨"files", some "1", none, []⟩ ⟨"a", none, .empty⟩ =
      .ok ("1",
        ⟨[("files", ⟨none, [("1", [(hashKey, .string "a"), (pinnedKey, .bool false)])]⟩)], 0⟩) :=
    rfl
  have hfollowed := (index_effects hvalid refusingPair).entered rfl rfl hentered
  exact ⟨hvalid, hfollowed.answer, hfollowed.calls.trans (by decide +kernel)⟩

/-- A request that is answered need not have asked every replica for a pin. -/
theorem storedOnly_unasked :
    ¬ forall (d : Depot) (request : IndexRequest) (response : IndexResponse),
      validate request = .ok () ->
      (indexAndReplicate (backends d.replicaNames) request d).1 = .ok response ->
        forall r, r ∈ d.replicas ->
          askEntry ".pin" response.contentId r.name ∈
            (indexAndReplicate (backends d.replicaNames) request d).2.journal := by
  intro h
  have hasked := h refusingPair (.storeOnly (.bytes [97])) _ rfl rfl (Replica.of "second")
    (by simp [refusingPair])
  have hcalls : (indexAndReplicate (backends refusingPair.replicaNames)
      (.storeOnly (.bytes [97])) refusingPair).2.journal = ["storage.write"] := rfl
  rw [hcalls, List.mem_singleton] at hasked
  -- the entry of the replica starts with its name
  have hstart := congrArg (fun entry => entry.toList.take 2) hasked
  simp [askEntry, Replica.of] at hstart

end Service
end ContentGateway
