import ContentGateway.Proofs.Catalog.Holders
import ContentGateway.Proofs.Service.Runs

/-!
# Looking up by content

A look-up by content answers the first document in scope that holds it, and fails exactly if
there is none.  With the payload, it answers what the storage holds under the content, or
fails because nothing is stored there.
-/

namespace ContentGateway

theorem Depot.read_of_no_faults {d : Depot} (hfaults : d.faults = []) (id : String) :
    Depot.read id d = (d.blobs.read id, d.journaled ["storage.read" ++ (" " ++ id)]) := by
  rw [read_run, Service.fault_of_no_faults hfaults]
  rfl

theorem Depot.backends_read (names : List String) :
    (Depot.backends names).storage.read = Depot.read := rfl

namespace Service

open Catalog (Holder FirstHolder)

def notIndexed (contentId : String) : Failure :=
  .notFound ("content " ++ contentId ++ " is not indexed")

theorem findByContent_apply {d : Depot} (hd : d.Ready) (names : List String)
    {index : Option String} (hscope : d.catalog.Reaches index) (contentId : String) :
    findByContent (Depot.backends names) index contentId d =
      (match d.catalog.found (Catalog.scope index)
          (Query.empty.equals hashKey (.string contentId)) with
        | metadata :: _ => .ok metadata
        | [] => .error (notIndexed contentId),
        d.journaled [Depot.searchEntry index .single]) := by
  unfold findByContent
  rw [Action.bind_apply, Depot.backends_indexer, Depot.search_apply hd,
    Catalog.search_unsorted hscope _ rfl]
  have hoffset : PageRequest.single.offset = 0 := rfl
  have hsize : PageRequest.single.size = 1 := rfl
  rw [hoffset, hsize, List.drop_zero]
  cases d.catalog.found (Catalog.scope index)
      (Query.empty.equals hashKey (.string contentId)) with
  | nil => rfl
  | cons metadata rest => rfl

/-- A look-up by content finds no holder, or the first one. -/
theorem Truthful.findByContent {names : List String} {d : Depot} (h : Truthful names d)
    {index : Option String} (hscope : d.catalog.Reaches index) (contentId : String) :
    let found := Service.findByContent (Depot.backends names) index contentId d
    found.2 = d.journaled [Depot.searchEntry index .single] ∧
      ((found.1 = .error (notIndexed contentId) ∧
          forall i j document, ¬ Holder d.catalog (Catalog.scope index) contentId i j document) ∨
        exists i j document, found.1 = .ok (Metadata.ofDocument i j document) ∧
          FirstHolder d.catalog (Catalog.scope index) contentId i j document) := by
  intro found
  have hfound : found = _ := findByContent_apply h.ready names hscope contentId
  rw [hfound]
  refine ⟨rfl, ?_⟩
  rcases Catalog.found_holding h.wellFormed (fun hdocument => (h.supported hdocument).described)
      (Catalog.scope index) contentId with
    ⟨hnone, habsent⟩ | ⟨i, j, document, rest, hsome, hfirst⟩
  · rw [hnone]
    exact Or.inl ⟨rfl, habsent⟩
  · rw [hsome]
    exact Or.inr ⟨i, j, document, rfl, hfirst⟩

theorem locate_of_content {W : Type} (b : Backends W) {request : GetRequest} {contentId : String}
    (hid : nonBlank request.id = none) (hcontent : nonBlank request.contentId = some contentId) :
    locate b request = Service.findByContent b (nonBlank request.index) contentId := by
  unfold locate
  simp only [hid, hcontent]

/-- What a look-up answers for a document with its content. -/
def answerFor (request : GetRequest) (blobs : BlobStore) (metadata : Metadata)
    (contentId : String) : Except Failure GetResponse :=
  if request.loadFile then
    match Table.get? blobs.blobs contentId with
    | some payload => .ok ⟨.success, ⟨metadata, some payload⟩⟩
    | none => .error (.notFound ("content " ++ contentId ++ " not found"))
  else .ok ⟨.success, ⟨metadata, none⟩⟩

theorem answerFor_ne_notIndexed (request : GetRequest) (blobs : BlobStore)
    (metadata : Metadata) (contentId : String) :
    answerFor request blobs metadata contentId ≠ .error (notIndexed contentId) := by
  unfold answerFor
  intro h
  split at h
  · split at h
    · cases h
    · have htext : "content " ++ contentId ++ " not found" =
          "content " ++ contentId ++ " is not indexed" :=
        Failure.notFound.inj (Except.error.inj h)
      have hrest : " not found" = " is not indexed" := by
        simpa using congrArg String.toList htext
      exact absurd hrest (by decide)
  · cases h

theorem get_of_located {d : Depot} (hfaults : d.faults = []) {request : GetRequest}
    {metadata : Metadata} {contentId : String} (hcontent : metadata.contentId = some contentId)
    {calls : List String}
    (hlocate : locate (Depot.backends d.replicaNames) request d =
      (.ok metadata, d.journaled calls)) :
    (get (Depot.backends d.replicaNames) request d).1 =
      answerFor request d.blobs metadata contentId := by
  unfold get answerFor
  rw [Action.bind_apply, hlocate]
  simp only [hcontent]
  cases request.loadFile with
  | false => rfl
  | true =>
      simp only [if_true]
      rw [Action.bind_apply, Depot.backends_read,
        Depot.read_of_no_faults (d := d.journaled calls) hfaults, Depot.journaled_blobs]
      unfold BlobStore.read BlobStore.unknown
      cases Table.get? d.blobs.blobs contentId with
      | none => rfl
      | some payload => rfl

theorem get_of_located_unloaded {W : Type} {b : Backends W} {request : GetRequest}
    (hload : request.loadFile = false) {metadata : Metadata} {w v : W}
    (hlocate : locate b request w = (.ok metadata, v)) :
    get b request w = (.ok ⟨.success, ⟨metadata, none⟩⟩, v) := by
  unfold get
  rw [Action.bind_apply, hlocate, hload]
  rfl

theorem get_of_not_located {W : Type} {b : Backends W} {request : GetRequest} {w v : W}
    {failure : Failure} (hlocate : locate b request w = (.error failure, v)) :
    get b request w = (.error failure, v) := by
  unfold get
  rw [Action.bind_apply, hlocate]

/--
In a depot that is reached, while no call is made to fail, a look-up by content says that the
content is not indexed exactly if no document in scope holds it.  Otherwise it answers what is
known of the first document that does, with what the storage holds under the content if that is
asked for.
-/
theorem Reached.get_by_content {replicas : List Replica} {d : Depot} (h : Reached replicas d)
    (hfaults : d.faults = []) {request : GetRequest} {contentId : String}
    (hid : nonBlank request.id = none) (hcontent : nonBlank request.contentId = some contentId)
    (hscope : d.catalog.Reaches (nonBlank request.index)) :
    let target := Catalog.scope (nonBlank request.index)
    let outcome := get (Depot.backends d.replicaNames) request d
    Depot.Quiet d outcome.2 ∧
      (outcome.1 = .error (notIndexed contentId) ↔
        forall index id document, ¬ Holder d.catalog target contentId index id document) ∧
      ((exists index id document, Holder d.catalog target contentId index id document) ->
        exists index id document, FirstHolder d.catalog target contentId index id document ∧
          ((Depot.backends d.replicaNames).indexer.fetch index id d).1 =
            .ok (Metadata.ofDocument index id document) ∧
          outcome.1 =
            answerFor request d.blobs (Metadata.ofDocument index id document) contentId) := by
  intro target outcome
  refine ⟨quiet_get d.replicaNames request d, ?_⟩
  have hlocate := congrFun (locate_of_content (Depot.backends d.replicaNames) hid hcontent) d
  rcases h.truthful.findByContent hscope contentId with ⟨hworld, hfound⟩
  rcases hfound with ⟨hanswer, habsent⟩ | ⟨index, id, document, hanswer, hfirst⟩
  · have hget : outcome.1 = .error (notIndexed contentId) :=
      congrArg Prod.fst (get_of_not_located (hlocate.trans (Prod.ext hanswer hworld)))
    constructor
    · exact ⟨fun _ => habsent, fun _ => hget⟩
    · rintro ⟨index, id, document, hholder⟩
      exact absurd hholder (habsent index id document)
  · have hget : outcome.1 =
        answerFor request d.blobs (Metadata.ofDocument index id document) contentId :=
      get_of_located hfaults hfirst.holds (hlocate.trans (Prod.ext hanswer hworld))
    constructor
    · constructor
      · intro hmissing
        exact absurd (hget.symm.trans hmissing) (answerFor_ne_notIndexed _ _ _ _)
      · intro habsent
        exact absurd hfirst.toHolder (habsent index id document)
    · intro _
      refine ⟨index, id, document, hfirst, ?_, hget⟩
      have hlower : lowerCase index = index :=
        h.truthful.wellFormed.lowerCase_name
          (Catalog.mem_indexNames_of_document? hfirst.present)
      rw [Depot.backends_indexer, fetch_apply, fault_of_no_faults hfaults, Catalog.fetch_eq,
        hlower, hfirst.present]

theorem get_by_content_sharedFiles :
    exists index id document,
      FirstHolder sharedFiles.catalog none "a" index id document ∧
        ((Depot.backends sharedFiles.replicaNames).indexer.fetch index id sharedFiles).1 =
          .ok (Metadata.ofDocument index id document) ∧
        (get (Depot.backends sharedFiles.replicaNames) ⟨none, none, some "a", false⟩
            sharedFiles).1 =
          .ok ⟨.success, ⟨Metadata.ofDocument index id document, none⟩⟩ := by
  have hholder : Holder sharedFiles.catalog none "a" "files" "2"
      [(hashKey, .string "a"), (pinnedKey, .bool true)] :=
    ⟨rfl, rfl, fun _ hname => nomatch hname⟩
  have hget := @Reached.get_by_content moodyPair sharedFiles reached_sharedFiles rfl
    ⟨none, none, some "a", false⟩ "a" (by decide) (by decide)
    (Catalog.reaches_none sharedFiles.catalog)
  exact hget.2.2 ⟨_, _, _, hholder⟩

end Service
end ContentGateway
