import ContentGateway.Proofs.Service.Reading
import ContentGateway.Proofs.Service.Truth

/-!
# Runs

A depot is used through the operations and the passes of the reconciler, and between them
calls may begin to fail and replicas may change their moods.  Whatever the order, the flag
of a document tells the truth, and the removal of a document has its exact effect.
-/

namespace ContentGateway
namespace Service

/-!
# Steps
-/

/-- What happens to a depot in one step. -/
inductive Operation where
  | createIndex (name : String) (configuration : Option Json)
  | index (request : IndexRequest)
  | deindex (index id : String)
  | get (request : GetRequest)
  | search (request : SearchRequest)
  | updateField (request : UpdateRequest)
  /-- A pass of the reconciler. -/
  | reconcile (pageSize : Nat)
  /-- From now on these calls fail. -/
  | fault (faults : Table Failure)
  /-- From now on the replica at a position fails in these ways. -/
  | mood (position : Nat) (refused : List String) (failures : Nat) (stuck : Bool)

/-- Callers leave the reserved fields alone, and searches and changes of fields do not fail. -/
def Operation.Allowed : Operation -> Prop
  | .updateField request => isReservedKey request.key = false
  | .fault faults =>
      Table.get? faults "indexer.search" = none ∧ Table.get? faults "indexer.update_field" = none
  | _ => True

/-- The replicas with another mood at a position; each keeps its name and what it tracks. -/
def moodAt (position : Nat) (refused : List String) (failures : Nat) (stuck : Bool)
    (replicas : List Replica) : List Replica :=
  replicas.mapIdx fun i r =>
    if i = position then ⟨r.name, r.tracked, refused, failures, r.failed, stuck⟩ else r

def perform (operation : Operation) (d : Depot) : Depot :=
  let b := Depot.backends d.replicaNames
  match operation with
  | .createIndex name configuration => (createIndex b name configuration d).2
  | .index request => (indexAndReplicate b request d).2
  | .deindex index id => (deindex b index id d).2
  | .get request => (get b request d).2
  | .search request => (search b request d).2
  | .updateField request => (updateField b request d).2
  | .reconcile pageSize => (Reconciler.runOnce b pageSize d).2
  | .fault faults => { d with faults := faults }
  | .mood position refused failures stuck =>
      d.withReplicas (moodAt position refused failures stuck d.replicas)

/--
The depots that steps lead to from one without content and documents.  Memory holds no
more documents than a machine word counts.
-/
inductive Reached (replicas : List Replica) : Depot -> Prop where
  | start : Reached replicas (Depot.ofReplicas replicas)
  | step {d : Depot} {operation : Operation} :
      Reached replicas d ->
      operation.Allowed ->
      (perform operation d).catalog.size ≤ largestWord ->
      Reached replicas (perform operation d)

theorem Reached.fits {replicas : List Replica} {d : Depot} (h : Reached replicas d) :
    d.catalog.size ≤ largestWord := by
  cases h with
  | start => exact Nat.zero_le _
  | step _ _ hfits => exact hfits

/-!
# The invariant along a run
-/

namespace Truthful

variable {names : List String} {d : Depot}

theorem self (h : Truthful names d) : Truthful d.replicaNames d := by
  have hnames := h.names
  subst hnames
  exact h

theorem withFaults (h : Truthful names d) {faults : Table Failure}
    (hsearch : Table.get? faults "indexer.search" = none)
    (hsetField : Table.get? faults "indexer.update_field" = none) :
    Truthful names { d with faults := faults } :=
  ⟨h.names, ⟨hsearch, hsetField, h.ready.window⟩, h.wellFormed, h.supported⟩

theorem withMood (h : Truthful names d) (position : Nat) (refused : List String)
    (failures : Nat) (stuck : Bool) :
    Truthful names (d.withReplicas (moodAt position refused failures stuck d.replicas)) where
  names := by
    rw [← h.names]
    unfold Depot.replicaNames moodAt
    rw [Depot.withReplicas_replicas]
    apply List.ext_getElem?
    intro i
    rw [List.getElem?_map, List.getElem?_mapIdx, List.getElem?_map, Option.map_map]
    congr 1
    funext r
    simp only [Function.comp]
    split
    · rfl
    · rfl
  ready := h.ready.congr rfl rfl
  wellFormed := h.wellFormed
  supported hdocument := by
    refine (h.supported hdocument).mono ?_
    intro contentId _ htracked r hr
    rcases List.mem_mapIdx.mp hr with ⟨i, hi, rfl⟩
    have hold := htracked d.replicas[i] (List.getElem_mem hi)
    split
    · exact hold
    · exact hold

theorem perform (h : Truthful d.replicaNames d) (hfits : d.catalog.size ≤ largestWord)
    {operation : Operation} (hallowed : operation.Allowed) :
    Truthful d.replicaNames (Service.perform operation d) := by
  cases operation with
  | createIndex name configuration => exact (ensures_createIndex name configuration).world h
  | index request => exact (ensures_indexAndReplicate request).world h
  | deindex index id => exact h.deindex hfits index id
  | get request => exact h.quiet (quiet_get d.replicaNames request d)
  | search request => exact h.quiet (quiet_search d.replicaNames request d)
  | updateField request => exact (ensures_updateField hallowed).world h
  | reconcile pageSize => exact (preserved d.replicaNames).runOnce pageSize h
  | fault faults => exact h.withFaults hallowed.1 hallowed.2
  | mood position refused failures stuck => exact h.withMood position refused failures stuck

end Truthful

theorem truthful_ofReplicas (replicas : List Replica) :
    Truthful (replicas.map Replica.name) (Depot.ofReplicas replicas) where
  names := rfl
  ready := ⟨rfl, rfl, rfl⟩
  wellFormed := Catalog.wellFormed_empty
  supported hdocument := by cases hdocument

theorem Reached.truthful {replicas : List Replica} {d : Depot} (h : Reached replicas d) :
    Truthful d.replicaNames d := by
  induction h with
  | start => exact truthful_ofReplicas replicas
  | step hbefore hallowed _ ih => exact (ih.perform hbefore.fits hallowed).self

/-- In a depot that is reached, all replicas track the content of a document whose flag is set. -/
theorem Reached.pinned_tracked {replicas : List Replica} {d : Depot} (h : Reached replicas d)
    {index id : String} {document : Fields}
    (hdocument : d.catalog.document? index id = some document)
    (hpinned : Table.get? document pinnedKey = some (.bool true)) :
    exists contentId, contentOf document = some contentId ∧
      forall r, r ∈ d.replicas -> r.tracks contentId = true := by
  have hsupported := h.truthful.supported hdocument
  rcases hsupported.described.contentOf with ⟨contentId, hcontent⟩
  exact ⟨contentId, hcontent, hsupported.tracked hpinned hcontent⟩

def moodyPair : List Replica :=
  [⟨"first", [], [], 0, [], false⟩, ⟨"second", [], [], 1, [], true⟩]

def sharedFiles : Depot :=
  perform (.reconcile 1)
    (perform (.index (.reference ⟨"files", some "2", none, []⟩ "a"))
      (perform (.index (.reference ⟨"files", some "1", none, []⟩ "a"))
        (perform (.createIndex "files" none) (Depot.ofReplicas moodyPair))))

theorem reached_sharedFiles : Reached moodyPair sharedFiles := by
  unfold sharedFiles
  refine Reached.step (Reached.step (Reached.step (Reached.step Reached.start trivial ?_)
    trivial ?_) trivial ?_) trivial ?_
  · decide +kernel
  · decide +kernel
  · decide +kernel
  · decide +kernel

theorem pinned_tracked_sharedFiles :
    exists contentId, contentOf [(hashKey, .string "a"), (pinnedKey, .bool true)] = some contentId ∧
      forall r, r ∈ sharedFiles.replicas -> r.tracks contentId = true := by
  have hdocument : sharedFiles.catalog.document? "files" "2" =
      some [(hashKey, .string "a"), (pinnedKey, .bool true)] := rfl
  exact Reached.pinned_tracked reached_sharedFiles hdocument rfl

/-!
# The effect of a removal
-/

theorem answer_of_no_faults (verb : String)
    (run : Replica -> Except Failure Unit × Replica) (r : Replica) :
    Depot.answer [] verb run r = run r := rfl

theorem fault_of_no_faults {d : Depot} (h : d.faults = []) (name : String) :
    d.fault name = .ok () := by
  unfold Depot.fault
  rw [h]
  rfl

def stuckFailure (contentId : String) (r : Replica) : Failure :=
  .technical (r.name ++ " cannot unpin " ++ contentId) none

theorem firstFailure_unpin (replicas : List Replica) (contentId : String) :
    firstFailure (replicas.map fun r => (r.unpin contentId).1) =
      (replicas.find? Replica.stuck).map (stuckFailure contentId) := by
  induction replicas with
  | nil => rfl
  | cons r rest ih =>
      rw [List.map_cons, List.find?_cons]
      unfold Replica.unpin at ih ⊢
      cases hstuck : r.stuck with
      | true => rfl
      | false => exact ih

/-- What the removal of a document that describes `contentId` does to a depot, and its answer. -/
structure Removed (d : Depot) (index id contentId : String)
    (outcome : Except Failure Acknowledgement × Depot) : Prop where
  /-- The error of the first replica that cannot unpin, or success. -/
  result : outcome.1 =
    match d.replicas.find? Replica.stuck with
    | some r => .error (.technical (r.name ++ " cannot unpin " ++ contentId) none)
    | none => .ok .ok
  /-- The document is gone, also when the answer is an error. -/
  removed : outcome.2.catalog.document? (lowerCase index) id = none
  /-- Every other document is as it was, but for the flag where it shares the content. -/
  others : forall i j, ¬ (lowerCase index = i ∧ id = j) ->
    outcome.2.catalog.document? i j =
      (d.catalog.document? i j).map fun document =>
        if contentOf document = some contentId ∧ d.replicas ≠ [] then
          Table.insert document pinnedKey (.bool false)
        else document
  indexNames : outcome.2.catalog.indexNames = d.catalog.indexNames
  /-- Every replica that can unpin has let go of the content and of nothing else. -/
  replicas : outcome.2.replicas =
    d.replicas.map fun r =>
      if r.stuck then r else { r with tracked := Table.erase r.tracked contentId }
  /-- Every replica has been asked, in order, once the document was gone. -/
  asked : exists later, outcome.2.journal =
    later ++ (d.replicas.map fun r => Depot.askEntry ".unpin" contentId r.name).reverse
      ++ [removeEntry index id, fetchEntry index id] ++ d.journal
  untouched : outcome.2.blobs = d.blobs ∧ outcome.2.faults = d.faults ∧
    outcome.2.window = d.window

theorem map_unpin (replicas : List Replica) (contentId : String) :
    (replicas.map fun r => (r.unpin contentId).2) =
      replicas.map fun r =>
        if r.stuck then r else { r with tracked := Table.erase r.tracked contentId } := by
  apply List.map_congr_left
  intro r _
  unfold Replica.unpin
  split
  · rfl
  · rfl

theorem document?_released {names : List String} {d : Depot} (h : Truthful names d)
    (contentId index id : String) :
    (released d contentId).catalog.document? index id =
      (d.catalog.document? index id).map fun document =>
        if contentOf document = some contentId ∧ d.replicas ≠ [] then flagged false document
        else document := by
  show (requeued d contentId).document? index id = _
  unfold requeued
  cases hempty : d.replicas.isEmpty with
  | true =>
      have hnone : d.replicas = [] := List.isEmpty_iff.mp hempty
      simp [hnone]
  | false =>
      have hsome : d.replicas ≠ [] := by
        intro hnone
        rw [hnone] at hempty
        cases hempty
      simp only [Bool.false_eq_true, if_false]
      rw [document?_requeued h.wellFormed]
      cases hdocument : d.catalog.document? index id with
      | none => rfl
      | some document =>
          have hholds := (h.supported hdocument).described.holds_hash_iff contentId
          rw [Option.map_some, Option.map_some]
          congr 1
          exact if_congr (hholds.trans (and_iff_left hsome).symm) rfl rfl

theorem indexNames_released {d : Depot} (hc : d.catalog.WellFormed) (contentId : String) :
    (released d contentId).catalog.indexNames = d.catalog.indexNames := by
  show (requeued d contentId).indexNames = _
  unfold requeued
  split
  · rfl
  · exact indexNames_unflagged _ hc

theorem removed_afterRemoval {d : Depot} (h : Truthful d.replicaNames d) (hfaults : d.faults = [])
    (hfits : d.catalog.size ≤ largestWord) (index id contentId : String) :
    Removed d index id contentId
      (afterRemoval (Depot.backends d.replicaNames) (some contentId)
        ((d.withCatalog (d.catalog.without (lowerCase index) id)).journaled
          [removeEntry index id, fetchEntry index id])) := by
  have hwithout := (h.without (lowerCase index) id).journaled
    [removeEntry index id, fetchEntry index id]
  have hfits' : (d.catalog.without (lowerCase index) id).size ≤ largestWord :=
    Nat.le_trans (h.wellFormed.size_without_le _ _) hfits
  rcases release_apply hwithout.ready hwithout.wellFormed hfits' contentId with ⟨calls, hrelease⟩
  have hanswers : unpinAnswers ((d.withCatalog (d.catalog.without (lowerCase index) id)).journaled
      [removeEntry index id, fetchEntry index id]) contentId =
        d.replicas.map fun r => (r.unpin contentId).1 := by
    unfold unpinAnswers
    simp only [Depot.journaled_faults, Depot.withCatalog_faults, Depot.journaled_replicas,
      Depot.withCatalog_replicas, hfaults, answer_of_no_faults]
  -- without faults only a stuck replica fails
  rw [hanswers, firstFailure_unpin] at hrelease
  have houtcome : afterRemoval (Depot.backends d.replicaNames) (some contentId)
      ((d.withCatalog (d.catalog.without (lowerCase index) id)).journaled
        [removeEntry index id, fetchEntry index id]) =
      (match d.replicas.find? Replica.stuck with
        | some r => .error (stuckFailure contentId r)
        | none => .ok .ok,
        (released ((d.withCatalog (d.catalog.without (lowerCase index) id)).journaled
          [removeEntry index id, fetchEntry index id]) contentId).journaled calls) := by
    unfold afterRemoval
    simp only
    rw [Action.bind_apply]
    have hnames : ((d.withCatalog (d.catalog.without (lowerCase index) id)).journaled
        [removeEntry index id, fetchEntry index id]).replicaNames = d.replicaNames := rfl
    rw [hnames] at hrelease
    rw [hrelease]
    cases d.replicas.find? Replica.stuck with
    | none => rfl
    | some r => rfl
  rw [houtcome]
  constructor
  · rfl
  · show (released _ contentId).catalog.document? (lowerCase index) id = none
    rw [document?_released hwithout, Depot.journaled_catalog, Depot.withCatalog_catalog,
      Catalog.document?_without, if_pos ⟨rfl, rfl⟩]
    rfl
  · intro i j hother
    show (released _ contentId).catalog.document? i j = _
    rw [document?_released hwithout, Depot.journaled_catalog, Depot.withCatalog_catalog,
      Catalog.document?_without, if_neg hother]
    rfl
  · show (released _ contentId).catalog.indexNames = _
    rw [indexNames_released hwithout.wellFormed]
    exact Catalog.indexNames_withDocuments h.wellFormed _ _
  · show (d.replicas.map fun r =>
      (Depot.answer d.faults ".unpin" (fun r => r.unpin contentId) r).2) = _
    rw [hfaults]
    exact map_unpin d.replicas contentId
  · refine ⟨calls, ?_⟩
    rw [List.append_assoc, List.append_assoc]
    rfl
  · exact ⟨rfl, rfl, rfl⟩

/--
The exact effect of a removal in a depot that is reached, while no call is made to fail.
A document that is not there leaves a look-up in the journal and nothing else.
-/
theorem Reached.deindex_effect {replicas : List Replica} {d : Depot} (h : Reached replicas d)
    (hfaults : d.faults = []) {index id : String} (hindex : nonBlank (some index) ≠ none)
    (hid : nonBlank (some id) ≠ none) :
    (d.catalog.document? (lowerCase index) id = none ->
      deindex (Depot.backends d.replicaNames) index id d =
        (.error (Catalog.missing (lowerCase index) id), d.journaled [fetchEntry index id])) ∧
    (forall document, d.catalog.document? (lowerCase index) id = some document ->
      exists contentId, contentOf document = some contentId ∧
        Removed d index id contentId (deindex (Depot.backends d.replicaNames) index id d)) := by
  rw [deindex_apply hindex hid, fault_of_no_faults hfaults, fault_of_no_faults hfaults]
  constructor
  · intro hnone
    rw [hnone]
  · intro document hdocument
    rcases (h.truthful.supported hdocument).described.contentOf with ⟨contentId, hcontent⟩
    refine ⟨contentId, hcontent, ?_⟩
    rw [hdocument]
    simp only
    rw [hcontent]
    exact removed_afterRemoval h.truthful hfaults h.fits index id contentId

theorem deindex_effect_sharedFiles :
    deindex (Depot.backends sharedFiles.replicaNames) "files" "3" sharedFiles =
        (.error (Catalog.missing "files" "3"), sharedFiles.journaled [fetchEntry "files" "3"]) ∧
      exists contentId,
        contentOf [(hashKey, .string "a"), (pinnedKey, .bool true)] = some contentId ∧
        Removed sharedFiles "files" "1" contentId
          (deindex (Depot.backends sharedFiles.replicaNames) "files" "1" sharedFiles) :=
  ⟨(Reached.deindex_effect reached_sharedFiles rfl (by decide) (by decide)).1 rfl,
    (Reached.deindex_effect reached_sharedFiles rfl (by decide) (by decide)).2 _ rfl⟩

end Service
end ContentGateway
