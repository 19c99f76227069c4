import ContentGateway.Proofs.Depot.Replicas
import ContentGateway.Proofs.Service.Sharing

/-!
# Removing a document

What a removal does to a depot, as one equation for each of its parts: the checks, the
document, the replicas, and the documents that share the content.
-/

namespace ContentGateway
namespace Service

variable {W : Type}

/-!
# Required text
-/

theorem requireText_of_present {field text : String} (h : nonBlank (some text) ≠ none) :
    requireText field (some text) = .ok () := by
  unfold requireText
  cases htext : nonBlank (some text) with
  | none => exact absurd htext h
  | some _ => rfl

/-!
# The content
-/

/-- The catalog after the content has been released, if there is a replica to let go of it. -/
def requeued (d : Depot) (contentId : String) : Catalog :=
  if d.replicas.isEmpty then d.catalog
  else unflagged d.catalog (d.catalog.found none (contentQuery contentId))

def released (d : Depot) (contentId : String) : Depot :=
  (d.asked ".unpin" contentId fun r => r.unpin contentId).withCatalog (requeued d contentId)

def unpinAnswers (d : Depot) (contentId : String) : List (Except Failure Unit) :=
  d.replicas.map fun r => (Depot.answer d.faults ".unpin" (fun r => r.unpin contentId) r).1

theorem aside_frame (d₀ : Depot) : Depot.Aside fun d =>
    exists c calls, d = (d₀.withCatalog c).journaled calls where
  journaled := by
    rintro _ ⟨c, before, rfl⟩ calls
    exact ⟨c, calls ++ before, Depot.journaled_journaled _ _ _⟩
  withCatalog := by
    rintro _ ⟨_, before, rfl⟩ c
    exact ⟨c, before, rfl⟩

theorem releaseShared_depot {d : Depot} (hd : d.Ready) (hc : d.catalog.WellFormed)
    (hfits : d.catalog.size ≤ largestWord) (names : List String) (contentId : String) :
    exists calls, releaseShared (Depot.backends names) contentId d =
      ((), (d.withCatalog (unflagged d.catalog
        (d.catalog.found none (contentQuery contentId)))).journaled calls) := by
  have hk := Depot.keeps_indexer (aside_frame d)
  rcases releaseShared_apply (b := Depot.backends names) hk ⟨hd, d.catalog, [], rfl⟩ hc hfits
      contentId with
    ⟨v, hrun, hcatalog, _, c, calls, rfl⟩
  have hcatalog' : c = unflagged d.catalog (d.catalog.found none (contentQuery contentId)) :=
    hcatalog
  rw [hcatalog'] at hrun
  exact ⟨calls, hrun⟩

theorem isEmpty_backends (d : Depot) :
    (Depot.backends d.replicaNames).storage.replicas.isEmpty = d.replicas.isEmpty := by
  show (Depot.pinTargets d.replicaNames).isEmpty = _
  unfold Depot.pinTargets Depot.replicaNames
  cases d.replicas with
  | nil => rfl
  | cons r rest => rfl

theorem release_apply {d : Depot} (hd : d.Ready) (hc : d.catalog.WellFormed)
    (hfits : d.catalog.size ≤ largestWord) (contentId : String) :
    exists calls, release (Depot.backends d.replicaNames) contentId d =
      (match firstFailure (unpinAnswers d contentId) with
        | some failure => .error failure
        | none => .ok (), (released d contentId).journaled calls) := by
  have hunpin : unpinEverywhere (Depot.backends d.replicaNames).storage.replicas contentId d =
      (firstFailure (unpinAnswers d contentId),
        d.asked ".unpin" contentId fun r => r.unpin contentId) :=
    Depot.unpinEverywhere_apply d contentId
  have hasked : (d.asked ".unpin" contentId fun r => r.unpin contentId).Ready :=
    hd.congr rfl rfl
  unfold release released requeued
  rw [Action.bind_apply, Action.sure_apply, hunpin]
  simp only
  rw [isEmpty_backends]
  cases hempty : d.replicas.isEmpty with
  | true =>
      refine ⟨[], ?_⟩
      cases firstFailure (unpinAnswers d contentId) with
      | none => rfl
      | some failure => rfl
  | false =>
      rcases releaseShared_depot hasked hc hfits d.replicaNames contentId with ⟨calls, hshared⟩
      refine ⟨calls, ?_⟩
      simp only [Bool.not_false, if_true]
      rw [Action.bind_apply, Action.sure_apply, hshared]
      cases firstFailure (unpinAnswers d contentId) with
      | none => rfl
      | some failure => rfl

/-!
# The document
-/

def fetchEntry (index id : String) : String :=
  "indexer.get_document" ++ Depot.place index id

def removeEntry (index id : String) : String :=
  "indexer.deindex" ++ Depot.place index id

theorem fetch_apply (index id : String) (d : Depot) :
    Depot.indexer.fetch index id d =
      match d.fault "indexer.get_document" with
      | .error failure => (.error failure, d.journaled [fetchEntry index id])
      | .ok _ => (d.catalog.fetch index id, d.journaled [fetchEntry index id]) := by
  unfold Depot.indexer fetchEntry
  simp only
  rw [Depot.catalogCall_apply]
  simp only [Catalog.indexer, Catalog.call_apply]
  cases d.fault "indexer.get_document" with
  | error failure => rfl
  | ok _ =>
      cases d.catalog.fetch index id with
      | error failure => rfl
      | ok metadata => rfl

theorem remove_apply (index id : String) (d : Depot) :
    Depot.indexer.remove index id d =
      match d.fault "indexer.deindex" with
      | .error failure => (.error failure, d.journaled [removeEntry index id])
      | .ok _ =>
          ((d.catalog.remove index id).map fun _ => (),
            (d.withCatalog ((d.catalog.remove index id).toOption.getD d.catalog)).journaled
              [removeEntry index id]) := by
  unfold Depot.indexer removeEntry
  simp only
  rw [Depot.catalogCall_apply]
  simp only [Catalog.indexer, Catalog.call_apply]
  cases d.fault "indexer.deindex" with
  | error failure => rfl
  | ok _ =>
      cases d.catalog.remove index id with
      | error failure => rfl
      | ok changed => rfl

/-- What follows the removal of a document: its content is released. -/
def afterRemoval (b : Backends W) (content : Option String) : Action W Acknowledgement := do
  match content with
  | some contentId => release b contentId
  | none => pure ()
  pure .ok

theorem afterRemoval_world (b : Backends W) (contentId : String) (w : W) :
    (afterRemoval b (some contentId) w).2 = (release b contentId w).2 := by
  unfold afterRemoval
  simp only
  rw [Action.bind_apply]
  split
  · next hrun => rw [hrun]; rfl
  · next hrun => rw [hrun]

theorem deindex_of_blank_index {index : String} (h : nonBlank (some index) = none)
    (b : Backends W) (id : String) (w : W) :
    deindex b index id w = (.error (.validation "index shouldn't be empty"), w) := by
  unfold deindex requireText
  rw [h]
  rfl

theorem deindex_of_blank_id {index id : String} (hindex : nonBlank (some index) ≠ none)
    (h : nonBlank (some id) = none) (b : Backends W) (w : W) :
    deindex b index id w = (.error (.validation "id shouldn't be empty"), w) := by
  unfold deindex
  rw [requireText_of_present hindex]
  unfold requireText
  rw [h]
  rfl

/-- A removal in a depot, up to the release of the content. -/
theorem deindex_apply {index id : String} (hindex : nonBlank (some index) ≠ none)
    (hid : nonBlank (some id) ≠ none) (names : List String) (d : Depot) :
    deindex (Depot.backends names) index id d =
      match d.fault "indexer.get_document", d.catalog.document? (lowerCase index) id,
        d.fault "indexer.deindex" with
      | .error failure, _, _ => (.error failure, d.journaled [fetchEntry index id])
      | .ok _, none, _ =>
          (.error (Catalog.missing (lowerCase index) id), d.journaled [fetchEntry index id])
      | .ok _, some _, .error failure =>
          (.error failure, d.journaled [removeEntry index id, fetchEntry index id])
      | .ok _, some document, .ok _ =>
          afterRemoval (Depot.backends names) (contentOf document)
            ((d.withCatalog (d.catalog.without (lowerCase index) id)).journaled
              [removeEntry index id, fetchEntry index id]) := by
  unfold deindex
  rw [requireText_of_present hindex, requireText_of_present hid, Action.bind_apply,
    Action.check_apply]
  simp only
  rw [Action.bind_apply, Action.check_apply]
  simp only
  rw [Action.bind_apply, Depot.backends_indexer, fetch_apply, Catalog.fetch_eq]
  cases d.fault "indexer.get_document" with
  | error failure => rfl
  | ok _ =>
      cases hdocument : d.catalog.document? (lowerCase index) id with
      | none => rfl
      | some document =>
          simp only
          rw [Action.bind_apply, remove_apply, Catalog.remove_eq, Depot.journaled_catalog,
            hdocument]
          have hfault : (d.journaled [fetchEntry index id]).fault "indexer.deindex" =
              d.fault "indexer.deindex" := rfl
          rw [hfault]
          cases d.fault "indexer.deindex" with
          | error failure => rfl
          | ok _ => rfl

end Service
end ContentGateway
