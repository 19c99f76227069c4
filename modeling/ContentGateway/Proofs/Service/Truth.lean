import ContentGateway.Proofs.Reconciler.Invariant
import ContentGateway.Proofs.Service.Removal
import ContentGateway.Proofs.Service.Replication

/-!
# The flag tells the truth

The invariant of a depot that is used through the operations: every document describes
content, and where its flag is set, all replicas track that content.  Flags and replicas
change in different calls, so the invariant says for each call which of the two may change
and in which direction.
-/

namespace ContentGateway
namespace Service

/-!
# Documents that replicas support
-/

/-- A document that describes content, which all replicas track if its flag is set. -/
structure Supported (replicas : List Replica) (document : Fields) : Prop where
  described : Described document
  tracked : Table.get? document pinnedKey = some (.bool true) ->
    forall {contentId}, contentOf document = some contentId ->
      forall r, r ∈ replicas -> r.tracks contentId = true

theorem supported_of_unpinned {replicas : List Replica} {document : Fields}
    (h : Described document) (hpinned : Table.get? document pinnedKey = some (.bool false)) :
    Supported replicas document where
  described := h
  tracked := by
    intro hset
    rw [hpinned] at hset
    cases hset

theorem Supported.unflag {replicas replicas' : List Replica} {document : Fields}
    (h : Supported replicas document) : Supported replicas' (flagged false document) :=
  supported_of_unpinned (h.described.flagged false) (by rw [get?_flagged, if_pos rfl])

theorem Supported.flag {replicas replicas' : List Replica} {document : Fields}
    (h : Supported replicas document) {contentId : String}
    (hcontent : contentOf document = some contentId)
    (htracked : forall r, r ∈ replicas' -> r.tracks contentId = true) :
    Supported replicas' (flagged true document) where
  described := h.described.flagged true
  tracked := by
    intro _ other hother
    rw [contentOf_flagged, hcontent] at hother
    exact Option.some.inj hother ▸ htracked

theorem Supported.insert {replicas : List Replica} {document : Fields}
    (h : Supported replicas document) {key : String} (hkey : isReservedKey key = false)
    (value : Json) : Supported replicas (Table.insert document key value) where
  described := h.described.insert hkey value
  tracked := by
    have hhash : key ≠ hashKey := by
      rintro rfl
      exact absurd hkey (by decide)
    have hpinned : key ≠ pinnedKey := by
      rintro rfl
      exact absurd hkey (by decide)
    unfold contentOf
    rw [Table.get?_insert, if_neg hpinned, Table.get?_insert, if_neg hhash]
    exact h.tracked

theorem Supported.mono {replicas replicas' : List Replica} {document : Fields}
    (h : Supported replicas document)
    (hmono : forall {contentId}, contentOf document = some contentId ->
      (forall r, r ∈ replicas -> r.tracks contentId = true) ->
        forall r, r ∈ replicas' -> r.tracks contentId = true) :
    Supported replicas' document where
  described := h.described
  tracked hset _ hcontent := hmono hcontent (h.tracked hset hcontent)

/-!
# The invariant
-/

/-- A depot with replicas of the given names whose documents are all supported by them. -/
structure Truthful (names : List String) (d : Depot) : Prop where
  names : d.replicaNames = names
  ready : d.Ready
  wellFormed : d.catalog.WellFormed
  supported : forall {index id document},
    d.catalog.document? index id = some document -> Supported d.replicas document

namespace Truthful

variable {names : List String} {d d' : Depot}

theorem congr (h : Truthful names d) (hcatalog : d'.catalog = d.catalog)
    (hreplicas : d'.replicas = d.replicas) (hfaults : d'.faults = d.faults)
    (hwindow : d'.window = d.window) : Truthful names d' where
  names := by
    unfold Depot.replicaNames
    rw [hreplicas]
    exact h.names
  ready := h.ready.congr hfaults hwindow
  wellFormed := by
    rw [hcatalog]
    exact h.wellFormed
  supported := by
    rw [hcatalog, hreplicas]
    exact h.supported

theorem journaled (h : Truthful names d) (calls : List String) :
    Truthful names (d.journaled calls) :=
  h.congr rfl rfl rfl rfl

theorem quiet (h : Truthful names d) (hquiet : Depot.Quiet d d') : Truthful names d' := by
  rcases hquiet with ⟨calls, rfl⟩
  exact h.journaled calls

theorem withCatalog (h : Truthful names d) {c : Catalog} (hc : c.WellFormed)
    (hdocuments : forall {index id document},
      c.document? index id = some document -> Supported d.replicas document) :
    Truthful names (d.withCatalog c) :=
  ⟨h.names, h.ready.congr rfl rfl, hc, hdocuments⟩

/-!
# Pins and unpins
-/

theorem pinned (h : Truthful names d) (contentId : String) :
    Truthful names (Service.pinned d contentId) where
  names := (Depot.replicaNames_asked fun r => by rw [r.snd_pin]).trans h.names
  ready := h.ready.congr rfl rfl
  wellFormed := h.wellFormed
  supported hdocument := (h.supported hdocument).mono fun _ => Depot.tracks_asked_pin

/-- What a search has found is still there, with the same content. -/
def Known (m : Metadata) (d : Depot) : Prop :=
  exists document, d.catalog.document? (lowerCase m.index) m.id = some document ∧
    contentOf document = m.contentId

/-- The document that a replication is for is there, with the content to be pinned. -/
def Pending (job : Replication) (d : Depot) : Prop :=
  exists document, d.catalog.document? (lowerCase job.index) job.id = some document ∧
    contentOf document = some job.contentId

theorem replicated (h : Truthful names d) {job : Replication} (hjob : Pending job d) :
    Truthful names (Service.replicated d job) := by
  have hpins := h.pinned job.contentId
  unfold Service.replicated
  split
  · next hall =>
      apply journaled
      refine hpins.withCatalog (h.wellFormed.flag _ _ _) ?_
      intro index id document hdocument
      rw [Catalog.document?_flag] at hdocument
      split at hdocument
      · next hplace =>
          rcases hjob with ⟨old, hold, hcontent⟩
          rw [← hplace.1, ← hplace.2, hold] at hdocument
          cases hdocument
          exact (h.supported hold).flag hcontent (Depot.tracks_of_pinned hall)
      · exact hpins.supported hdocument
  · exact hpins

theorem known_replicated {m : Metadata} (hm : Known m d) (job : Replication) :
    Known m (Service.replicated d job) := by
  rcases hm with ⟨document, hdocument, hcontent⟩
  unfold Service.replicated
  split
  · show exists document', (d.catalog.flag _ _ true).document? _ _ = _ ∧ _
    rw [Catalog.document?_flag]
    split
    · exact ⟨_, by rw [hdocument]; rfl, by rw [contentOf_flagged, hcontent]⟩
    · exact ⟨document, hdocument, hcontent⟩
  · exact ⟨document, hdocument, hcontent⟩

/-!
# Passes of the reconciler
-/

theorem indexer_search (index : Option String) (query : Query) (request : PageRequest) :
    Action.Ensures (Truthful names) (Depot.indexer.search index query request)
      (fun page d => Truthful names d ∧ forall m, m ∈ page.elements -> Known m d)
      (Truthful names) := by
  intro d h
  rw [Depot.search_apply h.ready]
  cases hsearch : d.catalog.search index query request with
  | error failure => exact h.journaled _
  | ok page =>
      refine ⟨h.journaled _, ?_⟩
      intro m hm
      rcases h.wellFormed.mem_search hsearch hm with ⟨document, hdocument, hknown⟩
      have hlower : lowerCase m.index = m.index :=
        h.wellFormed.lowerCase_name (Catalog.mem_indexNames_of_document? hdocument)
      refine ⟨document, by rw [hlower]; exact hdocument, ?_⟩
      rw [hknown]
      rfl

theorem indexer_indexNames :
    Action.Ensures (Truthful names) Depot.indexer.indexNames (fun _ => Truthful names)
      (Truthful names) := by
  intro d h
  rw [Depot.indexNames_apply]
  cases d.fault "indexer.get_indexes" with
  | error failure => exact h.journaled _
  | ok _ => exact h.journaled _

theorem preserved (names : List String) :
    Reconciler.Preserved (Depot.backends names) (Truthful names) Known where
  indexNames := indexer_indexNames
  search index request := indexer_search (some index) _ request
  reconcile := by
    intro d m h hm
    cases hcontent : m.contentId with
    | none =>
        rw [Reconciler.reconcile_of_no_content _ hcontent]
        exact ⟨h, id⟩
    | some contentId =>
        have hjob := replicate_apply h.ready ⟨m.index, m.id, contentId⟩
        rw [h.names] at hjob
        rw [reconcile_world d names hcontent, hjob]
        rcases hm with ⟨document, hdocument, hsame⟩
        exact ⟨h.replicated ⟨document, hdocument, hsame.trans hcontent⟩,
          fun hm' => known_replicated hm' _⟩

/-!
# Calls of the backends
-/

theorem ensures_call (name detail : String) :
    Action.Ensures (Truthful names) (Depot.call name detail) (fun _ => Truthful names)
      (Truthful names) := by
  intro d h
  rw [Depot.call_apply]
  cases d.fault name with
  | error failure => exact h.journaled _
  | ok _ => exact h.journaled _

theorem ensures_onBlobs {α : Type} (run : BlobStore -> Except Failure (α × BlobStore)) :
    Action.Ensures (Truthful names) (Depot.onBlobs run) (fun _ => Truthful names)
      (Truthful names) := by
  intro d h
  rw [Depot.onBlobs_apply]
  cases run d.blobs with
  | error failure => exact h
  | ok answer => exact h.congr rfl rfl rfl rfl

theorem ensures_catalogCall {α : Type} (name detail : String)
    (run : Catalog -> Except Failure (α × Catalog)) {Q : α -> Catalog -> Prop}
    (hrun : forall {d answer c}, Truthful names d -> run d.catalog = .ok (answer, c) ->
      c.WellFormed ∧
        (forall {index id document}, c.document? index id = some document ->
          Supported d.replicas document) ∧ Q answer c) :
    Action.Ensures (Truthful names)
      (do Depot.call name detail; Depot.onCatalog (Catalog.call run))
      (fun answer d => Truthful names d ∧ Q answer d.catalog) (Truthful names) := by
  intro d h
  rw [Depot.catalogCall_apply, Catalog.call_apply]
  cases d.fault name with
  | error failure => exact h.journaled _
  | ok _ =>
      cases hresult : run d.catalog with
      | error failure => exact h.journaled _
      | ok result =>
          rcases hrun h hresult with ⟨hc, hdocuments, hleft⟩
          exact ⟨(h.withCatalog hc hdocuments).journaled _, hleft⟩

theorem indexer_createIndex (index : String) (configuration : Option Json) :
    Action.Ensures (Truthful names) (Depot.indexer.createIndex index configuration)
      (fun _ => Truthful names) (Truthful names) := by
  refine (ensures_catalogCall _ _ (Q := fun _ _ => True)
    (fun c => .ok ((), c.createIndex index configuration)) ?_).imp fun _ _ h => h.1
  rintro d answer c h hresult
  cases hresult
  refine ⟨h.wellFormed.createIndex index configuration, ?_, trivial⟩
  intro i id document hdocument
  rw [Catalog.document?_createIndex] at hdocument
  exact h.supported hdocument

/-- A write leaves a document with its content, which waits for its pins. -/
theorem indexer_put (index : String) (id : Option String) (contentId : String)
    (contentType : Option String) (fields : Fields) :
    Action.Ensures (Truthful names)
      (Depot.indexer.put index id (some contentId) contentType fields)
      (fun docId d => Truthful names d ∧
        exists document, d.catalog.document? (lowerCase index) docId = some document ∧
          contentOf document = some contentId)
      (Truthful names) := by
  refine ensures_catalogCall _ _ (Q := fun docId c =>
    exists document, c.document? (lowerCase index) docId = some document ∧
      contentOf document = some contentId)
    (fun c => c.put index id (some contentId) contentType fields) ?_
  intro d docId c h hresult
  rcases Catalog.put_ok hresult with ⟨hindex, document, number, hfresh, rfl⟩
  have hlook : forall i j,
      Catalog.document? ⟨(d.catalog.store (lowerCase index) docId document).shelves, number⟩ i j =
        if lowerCase index = i ∧ docId = j then some document else d.catalog.document? i j :=
    fun i j => Catalog.document?_store hindex docId document i j
  have hstored := h.wellFormed.store (lowerCase index) docId document
  refine ⟨⟨hstored.shelves, hstored.documents, hstored.named⟩, ?_, document, ?_, ?_⟩
  · intro i j document' hdocument
    rw [hlook] at hdocument
    split at hdocument
    · cases hdocument
      exact supported_of_unpinned hfresh.described hfresh.pinned
    · exact h.supported hdocument
  · rw [hlook, if_pos ⟨rfl, rfl⟩]
  · unfold contentOf
    rw [hfresh.content]
    rfl

theorem indexer_setField (index id : String) {key : String} (hkey : isReservedKey key = false)
    (value : Json) :
    Action.Ensures (Truthful names) (Depot.indexer.setField index id key value)
      (fun _ => Truthful names) (Truthful names) := by
  refine (ensures_catalogCall _ _ (Q := fun _ _ => True)
    (fun c => (c.setField index id key value).map fun c => ((), c)) ?_).imp fun _ _ h => h.1
  intro d answer c h hresult
  rw [Catalog.setField_eq] at hresult
  cases hdocument : d.catalog.document? (lowerCase index) id with
  | none =>
      rw [hdocument] at hresult
      cases hresult
  | some old =>
      rw [hdocument] at hresult
      cases hresult
      refine ⟨h.wellFormed.store _ _ _, ?_, trivial⟩
      intro i j document hlook
      rw [Catalog.document?_store (Catalog.mem_indexNames_of_document? hdocument)] at hlook
      split at hlook
      · cases hlook
        exact (h.supported hdocument).insert hkey value
      · exact h.supported hlook

/-!
# Indexing
-/

theorem storage_write (content : Bytes) :
    Action.Ensures (Truthful names) ((Depot.storage names).write content)
      (fun _ => Truthful names) (Truthful names) :=
  (ensures_call _ _).bind fun _ => ensures_onBlobs _

theorem storage_writeStream (content : Stream) :
    Action.Ensures (Truthful names) ((Depot.storage names).writeStream content)
      (fun _ => Truthful names) (Truthful names) :=
  (ensures_call _ _).bind fun _ => ensures_onBlobs _

theorem ensures_store (content : Source) (declared : Option String) :
    Action.Ensures (Truthful names) (store (Depot.backends names) content declared)
      (fun _ => Truthful names) (Truthful names) := by
  unfold store
  cases content with
  | bytes bytes =>
      exact (storage_write bytes).bind fun _ => Action.ensures_pure fun _ h => h
  | stream stream =>
      cases nonBlank declared with
      | some type =>
          exact (storage_writeStream _).bind fun _ => Action.ensures_pure fun _ h => h
      | none =>
          exact (storage_writeStream _).bind fun _ => Action.ensures_pure fun _ h => h

def Indexed (names : List String) (answer : IndexResponse × Option Replication) (d : Depot) :
    Prop :=
  Truthful names d ∧ forall job, answer.2 = some job -> Pending job d

theorem ensures_enter (header : Header) (contentId : String) :
    Action.Ensures (Truthful names) (enter (Depot.backends names) header contentId)
      (Indexed names) (Truthful names) := by
  unfold enter
  refine (indexer_put _ _ _ _ _).bind fun id => Action.ensures_pure ?_
  rintro d ⟨h, hdocument⟩
  refine ⟨h, ?_⟩
  intro job hjob
  cases hjob
  exact hdocument

theorem ensures_index (request : IndexRequest) :
    Action.Ensures (Truthful names) (index (Depot.backends names) request)
      (Indexed names) (Truthful names) := by
  unfold index
  refine (Action.ensures_check _).bind fun _ => ?_
  cases request with
  | storeOnly content =>
      refine (ensures_store content none).bind fun stored => Action.ensures_pure ?_
      intro d h
      refine ⟨h, ?_⟩
      intro job hjob
      cases hjob
  | store header content =>
      exact (ensures_store content header.contentType).bind fun stored => ensures_enter _ _
  | text header content =>
      exact (ensures_store _ header.contentType).bind fun stored => ensures_enter _ _
  | reference header contentId => exact ensures_enter header contentId

theorem ensures_replicate (job : Replication) :
    Action.Ensures (fun d => Truthful names d ∧ Pending job d)
      (liftM (replicate (Depot.backends names) job) : Action Depot Unit)
      (fun _ => Truthful names) (Truthful names) := by
  rintro d ⟨h, hjob⟩
  have hrun := replicate_apply h.ready job
  rw [h.names] at hrun
  rw [Action.sure_apply, hrun]
  exact h.replicated hjob

theorem ensures_indexAndReplicate (request : IndexRequest) :
    Action.Ensures (Truthful names) (indexAndReplicate (Depot.backends names) request)
      (fun _ => Truthful names) (Truthful names) := by
  unfold indexAndReplicate
  refine (ensures_index request).bind ?_
  rintro ⟨response, job⟩
  cases job with
  | none => exact Action.ensures_pure fun d h => h.1
  | some job =>
      have hrun : Action.Ensures (Indexed names (response, some job))
          (liftM (replicate (Depot.backends names) job) : Action Depot Unit)
          (fun _ => Truthful names) (Truthful names) :=
        fun d h => ensures_replicate job d ⟨h.1, h.2 job rfl⟩
      exact hrun.bind fun _ => Action.ensures_pure fun d h => h

/-!
# Administration and changes of fields
-/

theorem ensures_createIndex (name : String) (configuration : Option Json) :
    Action.Ensures (Truthful names) (createIndex (Depot.backends names) name configuration)
      (fun _ => Truthful names) (Truthful names) := by
  unfold createIndex
  refine (Action.ensures_check _).bind fun _ => ?_
  exact (indexer_createIndex name configuration).bind fun _ => Action.ensures_pure fun d h => h

theorem ensures_updateField {request : UpdateRequest} (hkey : isReservedKey request.key = false) :
    Action.Ensures (Truthful names) (updateField (Depot.backends names) request)
      (fun _ => Truthful names) (Truthful names) := by
  unfold updateField
  refine (Action.ensures_check _).bind fun _ => ?_
  refine (Action.ensures_check _).bind fun _ => ?_
  refine (Action.ensures_check _).bind fun _ => ?_
  exact (indexer_setField _ _ hkey _).bind fun _ => Action.ensures_pure fun d h => h

/-!
# Removing documents
-/

/-- Released content is tracked no longer, but then no document that holds it is flagged. -/
theorem released (h : Truthful names d) (contentId : String) :
    Truthful names (Service.released d contentId) := by
  have hnames : (d.asked ".unpin" contentId fun r => r.unpin contentId).replicaNames = names :=
    (Depot.replicaNames_asked fun r => by rw [r.snd_unpin]).trans h.names
  unfold Service.released requeued
  cases hempty : d.replicas.isEmpty with
  | true =>
      refine ⟨hnames, h.ready.congr rfl rfl, h.wellFormed, ?_⟩
      intro index id document hdocument
      refine (h.supported hdocument).mono ?_
      intro other _ _ r hr
      rcases Depot.mem_asked hr with ⟨r', hr', _⟩
      rw [List.isEmpty_iff.mp hempty] at hr'
      cases hr'
  | false =>
      refine ⟨hnames, h.ready.congr rfl rfl,
        wellFormed_unflagged _ h.wellFormed, ?_⟩
      intro index id document hdocument
      have hlook : (unflagged d.catalog (d.catalog.found none (contentQuery contentId))).document?
          index id = some document := hdocument
      rw [document?_requeued h.wellFormed] at hlook
      rcases Option.map_eq_some_iff.mp hlook with ⟨old, hold, rfl⟩
      have hsupported := h.supported hold
      by_cases hholds : (contentQuery contentId).holds old = true
      · rw [if_pos hholds]
        exact hsupported.unflag
      · -- a document that keeps its flag holds some other content
        rw [if_neg hholds]
        refine hsupported.mono ?_
        intro other hcontent htracked
        apply Depot.tracks_asked_unpin _ htracked
        rintro rfl
        exact hholds ((hsupported.described.holds_hash_iff contentId).mpr hcontent)

theorem without (h : Truthful names d) (index id : String) :
    Truthful names (d.withCatalog (d.catalog.without index id)) := by
  refine h.withCatalog (h.wellFormed.without index id) ?_
  intro i j document hdocument
  rw [Catalog.document?_without] at hdocument
  split at hdocument
  · cases hdocument
  · exact h.supported hdocument

theorem afterRemoval (h : Truthful names d) (hfits : d.catalog.size ≤ largestWord)
    (content : Option String) :
    Truthful names (Service.afterRemoval (Depot.backends names) content d).2 := by
  cases content with
  | none => exact h
  | some contentId =>
      rcases release_apply h.ready h.wellFormed hfits contentId with ⟨calls, hrelease⟩
      rw [h.names] at hrelease
      unfold Service.afterRemoval
      simp only
      rw [Action.bind_apply, hrelease]
      cases firstFailure (unpinAnswers d contentId) with
      | none => exact (h.released contentId).journaled calls
      | some failure => exact (h.released contentId).journaled calls

theorem deindex (h : Truthful names d) (hfits : d.catalog.size ≤ largestWord) (index id : String) :
    Truthful names (Service.deindex (Depot.backends names) index id d).2 := by
  by_cases hindex : nonBlank (some index) = none
  · rw [deindex_of_blank_index hindex]
    exact h
  · by_cases hid : nonBlank (some id) = none
    · rw [deindex_of_blank_id hindex hid]
      exact h
    · have hwithout := (h.without (lowerCase index) id).journaled
        [removeEntry index id, fetchEntry index id]
      have hfits' : (d.catalog.without (lowerCase index) id).size ≤ largestWord :=
        Nat.le_trans (h.wellFormed.size_without_le _ _) hfits
      rw [deindex_apply hindex hid]
      cases d.fault "indexer.get_document" with
      | error failure => exact h.journaled _
      | ok _ =>
          cases d.catalog.document? (lowerCase index) id with
          | none => exact h.journaled _
          | some document =>
              cases d.fault "indexer.deindex" with
              | error failure => exact h.journaled _
              | ok _ => exact hwithout.afterRemoval hfits' _

end Truthful

end Service
end ContentGateway
