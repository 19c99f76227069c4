import ContentGateway.Proofs.Parallel
import ContentGateway.Reconciler
import ContentGateway.Service
import Mathlib.Data.List.Forall2

/-!
# Operations side by side

An operation asks of a failure only that it is one, and hands it on as it is.  So where the
calls of two backends answer alike in two worlds, every operation does, and so does a pass of
the reconciler.
-/

namespace ContentGateway

open ContentGateway.Action

variable {W : Type} {R : W -> W -> Prop} {kind : Failure -> Failure -> Prop} {b b' : Backends W}

/-!
# Backends that agree
-/

def Health.Alike (h h' : Health) : Prop :=
  h.healthy = h'.healthy ∧ h.message = h'.message

structure AgreeingTargets (R : W -> W -> Prop) (kind : Failure -> Failure -> Prop)
    (target target' : PinTarget W) : Prop where
  name : target.name = target'.name
  pin : forall id, Agreeing R kind (target.pin id) (target'.pin id)
  unpin : forall id, Agreeing R kind (target.unpin id) (target'.unpin id)

/-- The calls that write no content answer alike in related worlds. -/
structure AgreeingCalls (R : W -> W -> Prop) (kind : Failure -> Failure -> Prop)
    (b b' : Backends W) : Prop where
  refl : forall failure, kind failure failure
  createIndex : forall index configuration,
    Agreeing R kind (b.indexer.createIndex index configuration)
      (b'.indexer.createIndex index configuration)
  indexNames : Agreeing R kind b.indexer.indexNames b'.indexer.indexNames
  put : forall index id contentId contentType fields,
    Agreeing R kind (b.indexer.put index id contentId contentType fields)
      (b'.indexer.put index id contentId contentType fields)
  remove : forall index id, Agreeing R kind (b.indexer.remove index id) (b'.indexer.remove index id)
  fetch : forall index id, Agreeing R kind (b.indexer.fetch index id) (b'.indexer.fetch index id)
  setField : forall index id key value,
    Agreeing R kind (b.indexer.setField index id key value) (b'.indexer.setField index id key value)
  search : forall index query request,
    Agreeing R kind (b.indexer.search index query request) (b'.indexer.search index query request)
  read : forall id, Agreeing R kind (b.storage.read id) (b'.storage.read id)
  readAll : forall ids,
    Parallel R (List.Forall₂ (Agree kind)) (b.storage.readAll ids) (b'.storage.readAll ids)
  check : Parallel R Health.Alike b.storage.check b'.storage.check
  replicas : List.Forall₂ (AgreeingTargets R kind) b.storage.replicas b'.storage.replicas

structure AgreeingBackends (R : W -> W -> Prop) (kind : Failure -> Failure -> Prop)
    (b b' : Backends W) : Prop extends AgreeingCalls R kind b b' where
  write : forall content, Agreeing R kind (b.storage.write content) (b'.storage.write content)
  writeStream : forall content,
    Agreeing R kind (b.storage.writeStream content) (b'.storage.writeStream content)

/-!
# All targets
-/

section Targets

variable {targets targets' : List (PinTarget W)}

theorem isEmpty_eq (h : List.Forall₂ (AgreeingTargets R kind) targets targets') :
    targets.isEmpty = targets'.isEmpty := by
  cases h with
  | nil => rfl
  | cons _ _ => rfl

theorem parallel_pinEverywhere (h : List.Forall₂ (AgreeingTargets R kind) targets targets')
    (id : String) : Parallel R Eq (pinEverywhere targets id) (pinEverywhere targets' id) := by
  induction h with
  | nil => exact parallel_pure rfl
  | cons hone _ ih =>
      refine (hone.pin id).outcome.bind ?_
      intro result result' hresult
      refine ih.andThen fun others => ?_
      rw [hresult.isOk_eq]
      exact parallel_pure rfl

theorem parallel_unpinEverywhere (h : List.Forall₂ (AgreeingTargets R kind) targets targets')
    (id : String) :
    Parallel R (Option.Rel kind) (unpinEverywhere targets id) (unpinEverywhere targets' id) := by
  induction h with
  | nil => exact parallel_pure Option.Rel.none
  | cons hone _ ih =>
      refine (hone.unpin id).outcome.bind ?_
      intro result result' hresult
      refine ih.bind ?_
      intro later later' hlater
      rcases hresult.cases with ⟨a, rfl, rfl⟩ | ⟨f, g, rfl, rfl, hkind⟩
      · exact parallel_pure hlater
      · exact parallel_pure (Option.Rel.some hkind)

end Targets

namespace AgreeingCalls

/-!
# Replication and release
-/

theorem replicate (h : AgreeingCalls R kind b b') (job : Service.Replication) :
    Parallel R Eq (Service.replicate b job) (Service.replicate b' job) := by
  refine (parallel_pinEverywhere h.replicas job.contentId).andThen fun pinned => ?_
  cases pinned with
  | false => exact parallel_pure rfl
  | true =>
      refine (h.setField job.index job.id pinnedKey (.bool true)).outcome.bind ?_
      intro _ _ _
      exact parallel_pure rfl

theorem unflagAll (h : AgreeingCalls R kind b b') (documents : List Metadata) :
    Parallel R Eq (Service.unflagAll b documents) (Service.unflagAll b' documents) := by
  induction documents with
  | nil => exact parallel_pure rfl
  | cons m rest ih =>
      refine (h.setField m.index m.id pinnedKey (.bool false)).outcome.bind ?_
      intro _ _ _
      exact ih

theorem unflagPages (h : AgreeingCalls R kind b b') (query : Query) (pages : Nat)
    (request : PageRequest) :
    Parallel R Eq (Service.unflagPages b query pages request)
      (Service.unflagPages b' query pages request) := by
  induction pages generalizing request with
  | zero => exact parallel_pure rfl
  | succ pages ih =>
      -- both see the same page, and so walk on to the same request
      refine (h.search none query request).outcome.bind ?_
      intro result result' hresult
      rcases hresult.cases with ⟨page, rfl, rfl⟩ | ⟨f, g, rfl, rfl, -⟩
      · refine (h.unflagAll page.elements).andThen fun _ => ?_
        exact Parallel.ite (fun _ => parallel_pure rfl) fun _ => ih page.nextRequest
      · exact parallel_pure rfl

theorem releaseShared (h : AgreeingCalls R kind b b') (contentId : String) :
    Parallel R Eq (Service.releaseShared b contentId) (Service.releaseShared b' contentId) := by
  refine (h.search none _ _).outcome.bind ?_
  intro result result' hresult
  rcases hresult.cases with ⟨page, rfl, rfl⟩ | ⟨f, g, rfl, rfl, -⟩
  · refine (h.unflagAll page.elements).andThen fun _ => ?_
    exact Parallel.ite (fun _ => parallel_pure rfl) fun _ =>
      h.unflagPages _ page.totalPages page.nextRequest
  · exact parallel_pure rfl

theorem release (h : AgreeingCalls R kind b b') (contentId : String) :
    Agreeing R kind (Service.release b contentId) (Service.release b' contentId) := by
  have hshared : Agreeing R kind (liftM (Service.releaseShared b contentId) : Action W Unit)
      (liftM (Service.releaseShared b' contentId)) :=
    agreeing_lift (h.releaseShared contentId)
  refine (parallel_unpinEverywhere h.replicas contentId).liftBind ?_
  intro failure failure' hfailure
  rw [isEmpty_eq h.replicas]
  cases hfailure with
  | none =>
      refine Agreeing.ite (fun _ => ?_) fun _ => steady_pure ()
      exact hshared.bind fun _ => steady_pure ()
  | some hkind =>
      refine Agreeing.ite (fun _ => ?_) fun _ => agreeing_throw hkind
      exact hshared.bind fun _ => agreeing_throw hkind

/-!
# Changes of documents
-/

theorem createIndex_operation (h : AgreeingCalls R kind b b') (name : String)
    (configuration : Option Json) :
    Agreeing R kind (Service.createIndex b name configuration)
      (Service.createIndex b' name configuration) := by
  refine (steady_check h.refl _).bind fun _ => ?_
  exact (h.createIndex name configuration).bind fun _ => steady_pure _

theorem indexNames_operation (h : AgreeingCalls R kind b b') :
    Agreeing R kind (Service.indexNames b) (Service.indexNames b') :=
  h.indexNames.bind fun _ => steady_pure _

theorem enter (h : AgreeingCalls R kind b b') (header : Header) (contentId : String) :
    Agreeing R kind (Service.enter b header contentId) (Service.enter b' header contentId) :=
  (h.put _ _ _ _ _).bind fun _ => steady_pure _

theorem deindex (h : AgreeingCalls R kind b b') (index id : String) :
    Agreeing R kind (Service.deindex b index id) (Service.deindex b' index id) := by
  refine (steady_check h.refl _).bind fun _ => ?_
  refine (steady_check h.refl _).bind fun _ => ?_
  refine (h.fetch index id).bind fun metadata => ?_
  refine (h.remove index id).bind fun _ => ?_
  cases metadata.contentId with
  | none => exact steady_pure _
  | some contentId => exact (h.release contentId).bind fun _ => steady_pure _

theorem updateField (h : AgreeingCalls R kind b b') (request : UpdateRequest) :
    Agreeing R kind (Service.updateField b request) (Service.updateField b' request) := by
  refine (steady_check h.refl _).bind fun _ => ?_
  refine (steady_check h.refl _).bind fun _ => ?_
  refine (steady_check h.refl _).bind fun _ => ?_
  exact (h.setField _ _ _ _).bind fun _ => steady_pure _

/-!
# Looking up
-/

theorem locate (h : AgreeingCalls R kind b b') (request : GetRequest) :
    Agreeing R kind (Service.locate b request) (Service.locate b' request) := by
  unfold Service.locate
  cases nonBlank request.id with
  | some id => exact (steady_check h.refl _).bind fun _ => h.fetch _ _
  | none =>
      cases nonBlank request.contentId with
      | none => exact agreeing_throw (h.refl _)
      | some contentId =>
          refine (h.search _ _ _).bind fun page => ?_
          cases page.elements with
          | nil => exact agreeing_throw (h.refl _)
          | cons m rest => exact steady_pure m

theorem get (h : AgreeingCalls R kind b b') (request : GetRequest) :
    Agreeing R kind (Service.get b request) (Service.get b' request) := by
  refine (h.locate request).bind fun metadata => ?_
  cases request.loadFile with
  | false => exact steady_pure _
  | true =>
      cases metadata.contentId with
      | none => exact steady_pure _
      | some contentId => exact (h.read contentId).bind fun _ => steady_pure _

theorem attach_eq {payloads payloads' : List (Except Failure Bytes)}
    (h : List.Forall₂ (Agree kind) payloads payloads') (documents : List Metadata) :
    Service.attach documents payloads = Service.attach documents payloads' := by
  induction documents generalizing payloads payloads' with
  | nil => rfl
  | cons m rest ih =>
      cases h with
      | nil => rfl
      | cons hone hmore =>
          unfold Service.attach
          cases m.contentId with
          -- a document without content uses up no payload
          | none => exact congrArg _ (ih (List.Forall₂.cons hone hmore))
          | some contentId => exact congrArg₂ _ (congrArg _ hone.toOption_eq) (ih hmore)

theorem search_operation (h : AgreeingCalls R kind b b') (request : SearchRequest) :
    Agreeing R kind (Service.search b request) (Service.search b' request) := by
  unfold Service.search
  cases request.page with
  | none => exact agreeing_throw (h.refl _)
  | some pageRequest =>
      refine (h.search _ _ _).bind fun page => ?_
      cases request.loadFile with
      | false => exact steady_pure _
      | true =>
          refine (h.readAll _).liftBind ?_
          intro payloads payloads' hpayloads
          simp only [attach_eq hpayloads page.elements]
          exact steady_pure _

/-!
# Passes of the reconciler
-/

theorem reconcile (h : AgreeingCalls R kind b b') (m : Metadata) :
    Parallel R Eq (Reconciler.reconcile b m) (Reconciler.reconcile b' m) := by
  unfold Reconciler.reconcile
  cases m.contentId with
  | none => exact parallel_pure rfl
  | some contentId =>
      refine (parallel_pinEverywhere h.replicas contentId).andThen fun pinned => ?_
      cases pinned with
      | false => exact parallel_pure rfl
      | true =>
          refine (h.setField m.index m.id pinnedKey (.bool true)).outcome.bind ?_
          intro flagged flagged' hflagged
          rw [hflagged.isOk_eq]
          exact parallel_pure rfl

theorem reconcilePage (h : AgreeingCalls R kind b b') (documents : List Metadata)
    (walk : Reconciler.Walk) (progress : Reconciler.Progress) :
    Parallel R Eq (Reconciler.reconcilePage b documents walk progress)
      (Reconciler.reconcilePage b' documents walk progress) := by
  induction documents generalizing walk progress with
  | nil => exact parallel_pure rfl
  | cons m rest ih =>
      unfold Reconciler.reconcilePage
      exact Parallel.ite (fun _ => ih _ _) fun _ => (h.reconcile m).andThen fun _ => ih _ _

theorem step (h : AgreeingCalls R kind b b') (index : String) (request : PageRequest)
    (walk : Reconciler.Walk) :
    Parallel R Eq (Reconciler.step b index request walk)
      (Reconciler.step b' index request walk) := by
  refine (h.search _ _ _).outcome.bind ?_
  intro result result' hresult
  rcases hresult.cases with ⟨page, rfl, rfl⟩ | ⟨f, g, rfl, rfl, -⟩
  · refine Parallel.ite (fun _ => parallel_pure rfl) fun _ => ?_
    refine (h.reconcilePage _ _ _).andThen fun _ => ?_
    refine Parallel.ite (fun _ => ?_) fun _ => parallel_pure rfl
    exact Parallel.ite (fun _ => parallel_pure rfl) fun _ => parallel_pure rfl
  · exact parallel_pure rfl

theorem walkOn (h : AgreeingCalls R kind b b') (index : String) (searches : Nat)
    (position : Reconciler.Position) :
    Parallel R Eq (Reconciler.walkOn b index searches position)
      (Reconciler.walkOn b' index searches position) := by
  induction searches generalizing position with
  | zero =>
      cases position with
      | ended walk => exact parallel_pure rfl
      | before request total walk => exact parallel_pure rfl
  | succ searches ih =>
      cases position with
      | ended walk => exact parallel_pure rfl
      | before request total walk => exact (h.step index request walk).andThen fun _ => ih _

theorem reconcileIndices (h : AgreeingCalls R kind b b') (pageSize : Nat) (indices : List String)
    (report : Reconciler.Report) :
    Parallel R Eq (Reconciler.reconcileIndices b pageSize indices report)
      (Reconciler.reconcileIndices b' pageSize indices report) := by
  induction indices generalizing report with
  | nil => exact parallel_pure rfl
  | cons index rest ih =>
      refine Parallel.andThen ?_ fun _ => ih _
      refine (h.step index _ _).andThen fun position => ?_
      exact (h.walkOn index _ position).andThen fun _ => parallel_pure rfl

theorem runOnce (h : AgreeingCalls R kind b b') (pageSize : Nat) :
    Parallel R Eq (Reconciler.runOnce b pageSize) (Reconciler.runOnce b' pageSize) := by
  refine h.indexNames.outcome.bind ?_
  intro result result' hresult
  rcases hresult.cases with ⟨names, rfl, rfl⟩ | ⟨f, g, rfl, rfl, -⟩
  · exact h.reconcileIndices pageSize names .zero
  · exact parallel_pure rfl

end AgreeingCalls

namespace AgreeingBackends

/-!
# Indexing
-/

theorem store (h : AgreeingBackends R kind b b') (content : Source) (declared : Option String) :
    Agreeing R kind (Service.store b content declared) (Service.store b' content declared) := by
  cases content with
  | bytes bytes => exact (h.write bytes).bind fun _ => steady_pure _
  | stream stream =>
      unfold Service.store
      cases nonBlank declared with
      | none => exact (h.writeStream _).bind fun _ => steady_pure _
      | some type => exact (h.writeStream _).bind fun _ => steady_pure _

theorem index (h : AgreeingBackends R kind b b') (request : IndexRequest) :
    Agreeing R kind (Service.index b request) (Service.index b' request) := by
  refine (steady_check h.refl _).bind fun _ => ?_
  cases request with
  | storeOnly content => exact (h.store _ _).bind fun _ => steady_pure _
  | store header content => exact (h.store _ _).bind fun _ => h.enter _ _
  | text header content => exact (h.store _ _).bind fun _ => h.enter _ _
  | reference header contentId => exact h.enter header contentId

theorem indexAndReplicate (h : AgreeingBackends R kind b b') (request : IndexRequest) :
    Agreeing R kind (Service.indexAndReplicate b request)
      (Service.indexAndReplicate b' request) := by
  refine (h.index request).bind fun answer => ?_
  rcases answer with ⟨response, job⟩
  cases job with
  | none => exact steady_pure _
  | some job => exact (agreeing_lift (h.replicate job)).bind fun _ => steady_pure _

end AgreeingBackends
end ContentGateway
