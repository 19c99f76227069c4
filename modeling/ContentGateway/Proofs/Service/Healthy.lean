import ContentGateway.Proofs.Catalog.Contents
import ContentGateway.Proofs.Service.Reading
import ContentGateway.Proofs.Service.Runs
import ContentGateway.Proofs.Text.Blank

/-!
# Depots in which nothing fails

A depot is healthy if no call and no replica is made to fail.  Flags, free fields and pins of
content that is described already are the small changes of such a depot: all operations but
the creation of an index, an indexing and a removal make no others, and these three make one
change more.
-/

namespace ContentGateway

namespace Replica

theorem tracks_of_tracks_pin {r : Replica} {id other : String}
    (h : (r.pin id).2.tracks other = true) : r.tracks other = true ∨ other = id := by
  unfold pin at h
  simp only at h
  split at h
  · exact Or.inl h
  · split at h
    · exact Or.inl h
    · have hinserted : Table.contains (Table.insert r.tracked id ()) other = true := h
      rw [tracks_insert, Bool.or_eq_true, decide_eq_true_eq] at hinserted
      exact hinserted.symm.imp_right Eq.symm

theorem tracks_unpin_iff {r : Replica} (h : r.stuck = false) (id other : String) :
    (r.unpin id).2.tracks other = true ↔ r.tracks other = true ∧ id ≠ other := by
  unfold unpin
  rw [if_neg (by rw [h]; exact Bool.false_ne_true)]
  show Table.contains (Table.erase r.tracked id) other = true ↔ _
  unfold Table.contains tracks Table.contains
  rw [Table.get?_erase]
  by_cases hsame : id = other
  · simp [hsame]
  · simp [hsame]

end Replica

namespace Depot

def Tracks (d : Depot) (contentId : String) : Prop :=
  exists r, r ∈ d.replicas ∧ r.tracks contentId = true

end Depot

namespace Service

open Depot

/-- Nothing keeps a call from succeeding, and every replica can let go of content. -/
structure Healthy (d : Depot) : Prop where
  faults : d.faults = []
  window : d.window = none
  loose : forall r, r ∈ d.replicas -> r.stuck = false
  wellFormed : d.catalog.WellFormed
  named : forall index, index ∈ d.catalog.indexNames -> nonBlank (some index) ≠ none

/-- A healthy depot after small changes, among them pins of content that is described already. -/
structure Tended (d d' : Depot) : Prop where
  healthy : Healthy d'
  replicaNames : d'.replicaNames = d.replicaNames
  contents : d.catalog.SameContents d'.catalog
  /-- What is tracked was tracked before, or it is described. -/
  tracked : forall contentId, d'.Tracks contentId ->
    d.Tracks contentId ∨ d.catalog.Describes contentId
  kept : forall contentId, d.Tracks contentId -> d'.Tracks contentId

namespace Healthy

variable {d : Depot}

theorem ready (h : Healthy d) : d.Ready where
  search := by
    rw [h.faults]
    rfl
  setField := by
    rw [h.faults]
    rfl
  window := h.window

theorem tended (h : Healthy d) : Tended d d :=
  ⟨h, rfl, .refl _, fun _ => Or.inl, fun _ => id⟩

theorem withCatalog (h : Healthy d) {c : Catalog} (hc : c.WellFormed)
    (hnamed : forall index, index ∈ c.indexNames -> nonBlank (some index) ≠ none) :
    Healthy (d.withCatalog c) :=
  ⟨h.faults, h.window, h.loose, hc, hnamed⟩

theorem asked (h : Healthy d) {verb id : String} {run : Replica -> Except Failure Unit × Replica}
    (hrun : forall r, (run r).2.stuck = r.stuck) : Healthy (d.asked verb id run) where
  faults := h.faults
  window := h.window
  loose := by
    intro r hr
    rcases mem_asked hr with ⟨old, hold, rfl⟩
    rcases answer_or d.faults verb run old with heq | ⟨failure, heq⟩
    · rw [heq, hrun]
      exact h.loose old hold
    · rw [heq]
      exact h.loose old hold
  wellFormed := h.wellFormed
  named := h.named

end Healthy

/-!
# Small changes
-/

namespace Tended

variable {d d' d'' : Depot}

theorem trans (h : Tended d d') (h' : Tended d' d'') : Tended d d'' where
  healthy := h'.healthy
  replicaNames := h'.replicaNames.trans h.replicaNames
  contents := h.contents.trans h'.contents
  tracked := by
    intro contentId htracks
    rcases h'.tracked contentId htracks with hbefore | hdescribed
    · exact h.tracked contentId hbefore
    · exact Or.inr ((h.contents.describes_iff contentId).mp hdescribed)
  kept contentId htracks := h'.kept contentId (h.kept contentId htracks)

theorem congr (h : Tended d d') (blobs : BlobStore) (journal : List String) :
    Tended d { d' with blobs := blobs, journal := journal } :=
  h.trans ⟨⟨h.healthy.faults, h.healthy.window, h.healthy.loose, h.healthy.wellFormed,
    h.healthy.named⟩, rfl, .refl _, fun _ => Or.inl, fun _ => id⟩

theorem journaled (h : Tended d d') (calls : List String) : Tended d (d'.journaled calls) :=
  h.congr _ _

theorem withBlobs (h : Tended d d') (blobs : BlobStore) : Tended d (d'.withBlobs blobs) :=
  h.congr _ _

theorem quiet (h : Tended d d') (hquiet : Quiet d' d'') : Tended d d'' := by
  rcases hquiet with ⟨calls, rfl⟩
  exact h.journaled calls

theorem withCatalog (h : Tended d d') {c : Catalog} (hc : c.WellFormed)
    (hsame : d'.catalog.SameContents c) : Tended d (d'.withCatalog c) := by
  refine h.trans ⟨h.healthy.withCatalog hc ?_, rfl, hsame, fun _ => Or.inl, fun _ => id⟩
  intro index hindex
  rw [hsame.indexNames] at hindex
  exact h.healthy.named index hindex

theorem pinned (h : Tended d d') {contentId : String}
    (hdescribed : d'.catalog.Describes contentId) : Tended d (Service.pinned d' contentId) := by
  refine h.trans ⟨h.healthy.asked fun r => by rw [r.snd_pin], ?_, .refl _, ?_, ?_⟩
  · exact replicaNames_asked fun r => by rw [r.snd_pin]
  · rintro other ⟨r, hr, htracks⟩
    rcases mem_asked hr with ⟨old, hold, rfl⟩
    rw [h.healthy.faults, answer_of_no_faults] at htracks
    rcases Replica.tracks_of_tracks_pin htracks with hbefore | rfl
    · exact Or.inl ⟨old, hold, hbefore⟩
    · exact Or.inr hdescribed
  · rintro other ⟨r, hr, htracks⟩
    refine ⟨(r.pin contentId).2, ?_, Replica.tracks_pin htracks contentId⟩
    refine List.mem_map.mpr ⟨r, hr, ?_⟩
    rw [h.healthy.faults, answer_of_no_faults]

theorem settled (h : Tended d d') (job : Replication)
    (hdescribed : d'.catalog.Describes job.contentId) : Tended d (Service.settled d' job) := by
  have hpinned := h.pinned hdescribed
  unfold Service.settled
  split
  · apply journaled
    have hflag := h.healthy.wellFormed.sameContents_flag (lowerCase job.index) job.id true
    have hwellFormed := h.healthy.wellFormed.flag (lowerCase job.index) job.id true
    rw [flagCalled_of_ready h.healthy.ready]
    exact hpinned.withCatalog hwellFormed hflag
  · exact hpinned

theorem setFlag (h : Tended d d') (index id : String) (value : Bool) :
    Tended d (indexer.setField index id pinnedKey (.bool value) d').2 := by
  rw [setFlag_apply h.healthy.ready]
  exact (h.withCatalog (h.healthy.wellFormed.flag _ _ _)
    (h.healthy.wellFormed.sameContents_flag _ _ _)).journaled _

/-!
# Documents that share content
-/

variable (names : List String)

theorem unflagAll (h : Tended d d') (documents : List Metadata) :
    Tended d (Service.unflagAll (backends names) documents d').2 := by
  induction documents generalizing d' with
  | nil => exact h
  | cons m rest ih =>
      rw [Service.unflagAll, Action.state_bind_apply, Action.outcome_apply]
      exact ih (h.setFlag m.index m.id false)

theorem unflagPages (h : Tended d d') (query : Query) (pages : Nat) (request : PageRequest) :
    Tended d (Service.unflagPages (backends names) query pages request d').2 := by
  induction pages generalizing d' request with
  | zero => exact h
  | succ pages ih =>
      rw [Service.unflagPages, Action.state_bind_apply, Action.outcome_apply, backends_indexer,
        search_apply h.healthy.ready]
      have hsearched := h.journaled [searchEntry none request]
      cases d'.catalog.search none query request with
      | error failure => exact hsearched
      | ok page =>
          have hflags := hsearched.unflagAll names page.elements
          simp only
          rw [Action.state_bind_apply]
          split
          · exact hflags
          · exact ih hflags _

theorem releaseShared (h : Tended d d') (contentId : String) :
    Tended d (Service.releaseShared (backends names) contentId d').2 := by
  unfold Service.releaseShared
  rw [Action.state_bind_apply, Action.outcome_apply, backends_indexer,
    search_apply h.healthy.ready]
  have hsearched := h.journaled
    [searchEntry none (PageRequest.standard.withSize sharedPageSize)]
  cases d'.catalog.search none (Query.empty.equals hashKey (.string contentId))
      (PageRequest.standard.withSize sharedPageSize) with
  | error failure => exact hsearched
  | ok page =>
      have hflags := hsearched.unflagAll names page.elements
      simp only
      rw [Action.state_bind_apply]
      split
      · exact hflags
      · exact hflags.unflagPages names _ _ _

/-!
# Passes of the reconciler
-/

theorem known (h : Tended d d') {m : Metadata} (hm : Truthful.Known m d) :
    Truthful.Known m d' := by
  rcases hm with ⟨document, hdocument, hcontent⟩
  rcases h.contents.exists_document hdocument with ⟨document', hdocument', hsame⟩
  exact ⟨document', hdocument', hsame.trans hcontent⟩

theorem preserved (d : Depot) :
    Reconciler.Preserved (backends d.replicaNames) (Tended d) Truthful.Known where
  indexNames := by
    intro d' h
    rw [backends_indexer, indexNames_apply, fault_of_no_faults h.healthy.faults]
    exact h.journaled _
  search := by
    intro index request d' h
    rw [backends_indexer, search_apply h.healthy.ready]
    cases hsearch : d'.catalog.search (some index) Reconciler.unpinnedQuery request with
    | error failure => exact h.journaled _
    | ok page =>
        refine ⟨h.journaled _, ?_⟩
        intro m hm
        rcases h.healthy.wellFormed.mem_search hsearch hm with ⟨document, hdocument, hknown⟩
        have hlower : lowerCase m.index = m.index :=
          h.healthy.wellFormed.lowerCase_name (Catalog.mem_indexNames_of_document? hdocument)
        refine ⟨document, by rw [hlower]; exact hdocument, ?_⟩
        rw [hknown]
        rfl
  reconcile := by
    intro d' m h hm
    cases hcontent : m.contentId with
    | none =>
        rw [Reconciler.reconcile_of_no_content _ hcontent]
        exact ⟨h, fun hm' => hm'⟩
    | some contentId =>
        have hjob := replicate_settled d' ⟨m.index, m.id, contentId⟩
        rw [h.replicaNames] at hjob
        rw [reconcile_world d' d.replicaNames hcontent, hjob]
        rcases hm with ⟨document, hdocument, hsame⟩
        have hdescribed : d'.catalog.Describes contentId :=
          ⟨_, _, (Catalog.contentAt_of_document? hdocument).trans (hsame.trans hcontent)⟩
        have hsettled := h.healthy.tended.settled ⟨m.index, m.id, contentId⟩ hdescribed
        exact ⟨h.trans hsettled, fun hm' => hsettled.known hm'⟩

/-!
# Changes of free fields
-/

theorem ensures_setField (index id : String) {key : String} (hkey : isReservedKey key = false)
    (value : Json) :
    Action.Ensures (Tended d) (indexer.setField index id key value) (fun _ => Tended d)
      (Tended d) := by
  intro d' h
  rw [setField_apply h.healthy.ready.setField]
  cases hset : d'.catalog.setField index id key value with
  | error failure => exact h.journaled _
  | ok c =>
      rcases h.healthy.wellFormed.sameContents_setField hkey hset with ⟨hc, hsame⟩
      exact (h.withCatalog hc hsame).journaled _

theorem updateField (h : Tended d d') {request : UpdateRequest}
    (hkey : isReservedKey request.key = false) :
    Tended d (Service.updateField (backends names) request d').2 := by
  have hensures : Action.Ensures (Tended d) (Service.updateField (backends names) request)
      (fun _ => Tended d) (Tended d) := by
    unfold Service.updateField
    refine (Action.ensures_check _).bind fun _ => ?_
    refine (Action.ensures_check _).bind fun _ => ?_
    refine (Action.ensures_check _).bind fun _ => ?_
    exact (ensures_setField _ _ hkey _).bind fun _ => Action.ensures_pure fun _ hd => hd
  exact hensures.world h

end Tended

/-!
# The release of content
-/

def unpinned (d : Depot) (contentId : String) : Depot :=
  d.asked ".unpin" contentId fun r => r.unpin contentId

namespace Healthy

variable {d : Depot}

theorem unpinned (h : Healthy d) (contentId : String) : Healthy (Service.unpinned d contentId) :=
  h.asked fun r => by rw [r.snd_unpin]

theorem tracks_unpinned_iff (h : Healthy d) (contentId other : String) :
    (Service.unpinned d contentId).Tracks other ↔ d.Tracks other ∧ contentId ≠ other := by
  constructor
  · rintro ⟨r, hr, htracks⟩
    rcases mem_asked hr with ⟨old, hold, rfl⟩
    rw [h.faults, answer_of_no_faults,
      Replica.tracks_unpin_iff (h.loose old hold)] at htracks
    exact ⟨⟨old, hold, htracks.1⟩, htracks.2⟩
  · rintro ⟨⟨r, hr, htracks⟩, hne⟩
    refine ⟨(r.unpin contentId).2, ?_, (Replica.tracks_unpin_iff (h.loose r hr) _ _).mpr
      ⟨htracks, hne⟩⟩
    refine List.mem_map.mpr ⟨r, hr, ?_⟩
    rw [h.faults, answer_of_no_faults]

theorem find_stuck (h : Healthy d) : d.replicas.find? Replica.stuck = none := by
  rw [List.find?_eq_none]
  intro r hr
  rw [h.loose r hr]
  exact Bool.false_ne_true

theorem release (h : Healthy d) (contentId : String) :
    exists d', Service.release (backends d.replicaNames) contentId d = (.ok (), d') ∧
      Tended (Service.unpinned d contentId) d' := by
  have hunpin : unpinEverywhere (backends d.replicaNames).storage.replicas contentId d =
      (none, Service.unpinned d contentId) := by
    show unpinEverywhere (pinTargets d.replicaNames) contentId d = _
    rw [unpinEverywhere_apply, h.faults]
    simp only [answer_of_no_faults]
    rw [firstFailure_unpin, h.find_stuck]
    rfl
  have htended := (h.unpinned contentId).tended
  unfold Service.release
  rw [Action.bind_apply, Action.sure_apply, hunpin]
  simp only
  split
  · rw [Action.bind_apply, Action.sure_apply]
    exact ⟨_, rfl, htended.releaseShared _ contentId⟩
  · exact ⟨_, rfl, htended⟩

end Healthy

end Service
end ContentGateway
