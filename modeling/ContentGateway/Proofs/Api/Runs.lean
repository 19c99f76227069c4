import ContentGateway.Api.Router
import ContentGateway.Proofs.Service.Undisturbed

/-!
# The gateway behind its interface

What a request leaves in a depot is entries in the journal and the effect of one operation at
most.  So a depot whose replicas can let go of content stays healthy, and its flags stay true,
whatever requests are answered and however often the reconciler passes in between.
-/

namespace ContentGateway
namespace Api

open Depot
open Service (Healthy Truthful perform)

/-!
# Parts of handlings
-/

section Parts

variable {W α β : Type}

theorem reading_ok_bind (answer : α) (next : α -> Handling W β) (w : W) :
    (reading (.ok answer) >>= next) w = next answer w := rfl

theorem ofAction_apply (call : Action W α) (w : W) :
    ofAction call w = ((call w).1.mapError Refusal.ofFailure, (call w).2) := rfl

theorem answering_apply (toJson : α -> Json) (call : Action W α) (w : W) :
    answering toJson call w =
      (((call w).1.map fun answer => .ofJson 200 (toJson answer)).mapError Refusal.ofFailure,
        (call w).2) := by
  unfold answering
  rw [Action.exceptT_bind_apply, ofAction_apply]
  cases call w with
  | mk result w' =>
      cases result with
      | error failure => rfl
      | ok answer => rfl

end Parts

/-!
# Requests
-/

section Requests

def statusOf : Except Refusal Response -> Nat
  | .ok response => response.status
  | .error refusal => refusal.response.status

variable {W : Type} (b : Backends W) (s : Setup) (r : Request)

theorem respond_apply (route : Route) (w : W) :
    (respond b s r route w).1.status = statusOf (handle b s r route w).1 ∧
      (respond b s r route w).2 = (handle b s r route w).2 := by
  have hstatus : forall response : Response,
      (if r.method == "HEAD" then response.withoutBody else response).status =
        response.status := by
    intro response
    split
    · rfl
    · rfl
  unfold respond
  rw [Action.state_bind_apply]
  cases hrun : handle b s r route w with
  | mk result w' =>
      have hrun' : (handle b s r route).run w = (result, w') := hrun
      rw [hrun']
      cases result with
      | error refusal => exact ⟨hstatus _, rfl⟩
      | ok response => exact ⟨hstatus _, rfl⟩

theorem serve_of_route {route : Route} (hroute : Route.ofSegments? r.segments = some route)
    (hmethod : route.method.admits r.method = true) (w : W) :
    (serve b s r w).1.status = statusOf (handle b s r route w).1 ∧
      (serve b s r w).2 = (handle b s r route w).2 := by
  unfold serve
  rw [hroute]
  simp only
  rw [if_pos hmethod]
  exact respond_apply b s r route w

/-- Whatever is requested, the effect is that of an operation, or there is none. -/
theorem serve_world (w : W) :
    (serve b s r w).2 = w ∨ exists route, (serve b s r w).2 = (handle b s r route w).2 := by
  cases hroute : Route.ofSegments? r.segments with
  | none =>
      apply Or.inl
      unfold serve
      rw [hroute]
      rfl
  | some route =>
      cases hmethod : route.method.admits r.method with
      | true => exact Or.inr ⟨route, (serve_of_route b s r hroute hmethod w).2⟩
      | false =>
          apply Or.inl
          unfold serve
          rw [hroute]
          simp only
          rw [hmethod]
          rfl

end Requests

/-!
# What requests do to a depot
-/

/-- Calls that read have been made, and after them one operation at most. -/
inductive Served (d : Depot) : Depot -> Prop where
  | read {d' : Depot} : Quiet d d' -> Served d d'
  | performed {d' : Depot} (operation : Service.Operation) :
      Quiet d d' -> operation.Plain -> Served d (perform operation d')

def Serves {α : Type} (d : Depot) (call : Handling Depot α) : Prop :=
  forall d', Quiet d d' -> Served d (call d').2

namespace Serves

variable {α β : Type} {d : Depot}

theorem of_quiet {call : Handling Depot α} (h : forall d', Quiet d' (call d').2) : Serves d call :=
  fun d' hquiet => .read (hquiet.trans (h d'))

theorem pure (answer : α) : Serves d (Pure.pure answer : Handling Depot α) :=
  of_quiet fun d' => .refl d'

theorem reading_bind {value : Except Refusal α} {next : α -> Handling Depot β}
    (h : forall answer, Serves d (next answer)) : Serves d (reading value >>= next) := by
  intro d' hquiet
  cases value with
  | error refusal => exact .read hquiet
  | ok answer => exact h answer d' hquiet

theorem ofAction_bind {call : Action Depot α} {next : α -> Handling Depot β}
    (hcall : forall d', Quiet d' (call d').2) (h : forall answer, Serves d (next answer)) :
    Serves d (ofAction call >>= next) := by
  intro d' hquiet
  rw [Action.exceptT_bind_apply, ofAction_apply]
  have hafter := hquiet.trans (hcall d')
  cases hrun : call d' with
  | mk result d'' =>
      rw [hrun] at hafter
      cases result with
      | error failure => exact .read hafter
      | ok answer => exact h answer d'' hafter

theorem answering {toJson : α -> Json} {call : Action Depot α} (operation : Service.Operation)
    (hplain : operation.Plain)
    (hcall : forall d', d'.replicaNames = d.replicaNames -> (call d').2 = perform operation d') :
    Serves d (answering toJson call) := by
  intro d' hquiet
  have hnames : d'.replicaNames = d.replicaNames := by
    rcases hquiet with ⟨calls, rfl⟩
    rfl
  rw [answering_apply, hcall d' hnames]
  exact .performed operation hquiet hplain

end Serves

theorem quiet_indexNames (names : List String) (d : Depot) :
    Quiet d (Service.indexNames (backends names) d).2 := by
  unfold Service.indexNames
  rw [Action.bind_apply, backends_indexer, indexNames_apply]
  cases d.fault "indexer.get_indexes" with
  | error failure => exact ⟨_, rfl⟩
  | ok _ => exact ⟨_, rfl⟩

theorem quiet_check (names : List String) (d : Depot) :
    Quiet d ((backends names).storage.check d).2 := by
  show Quiet d (Depot.check d).2
  unfold Depot.check
  rw [Action.state_bind_apply, Action.outcome_apply, call_apply]
  cases d.fault "storage.check" with
  | error failure => cases failure <;> exact ⟨_, rfl⟩
  | ok _ => exact ⟨_, rfl⟩

theorem serves_readiness (d : Depot) : Serves d (readiness (backends d.replicaNames)) := by
  apply Serves.of_quiet
  intro d'
  have hcheck := quiet_check d.replicaNames d'
  have hlift : (liftM (backends d.replicaNames).storage.check : Handling Depot Health) d' =
      (.ok ((backends d.replicaNames).storage.check d').1,
        ((backends d.replicaNames).storage.check d').2) := rfl
  unfold readiness
  rw [Action.exceptT_bind_apply, hlift]
  simp only
  split
  · exact hcheck
  · exact hcheck

theorem serves_handle (d : Depot) (s : Setup) (r : Request) (route : Route) :
    Serves d (handle (backends d.replicaNames) s r route) := by
  -- the routes that change something end in one of three operations; two have several routes
  have hindex : forall request, Serves d (index (backends d.replicaNames) request) := by
    intro request
    apply Serves.answering (.index request) trivial
    intro d' hnames
    rw [← hnames]
    rfl
  have hdeindex : forall index id, Serves d
      (answering Acknowledgement.toJson (Service.deindex (backends d.replicaNames) index id)) := by
    intro index id
    apply Serves.answering (.deindex index id) trivial
    intro d' hnames
    rw [← hnames]
    rfl
  cases route with
  | liveness => exact .pure _
  | readiness => exact serves_readiness d
  | listIndexes =>
      apply Serves.of_quiet
      intro d'
      show Quiet d' (answering _ _ d').2
      rw [answering_apply]
      exact quiet_indexNames _ d'
  | createIndex segment =>
      refine .reading_bind fun name => ?_
      refine .reading_bind fun body => ?_
      refine .reading_bind fun configuration => ?_
      apply Serves.answering (.createIndex name configuration) trivial
      intro d' hnames
      rw [← hnames]
      rfl
  | indexReference => exact .reading_bind fun _ => hindex _
  | indexFile => exact .reading_bind fun request => hindex request
  | indexText => exact .reading_bind fun _ => hindex _
  | fetch segment =>
      refine .reading_bind fun contentId => ?_
      refine .reading_bind fun index => ?_
      exact .ofAction_bind (Service.quiet_get _ _) fun _ => .pure _
  | search =>
      refine .reading_bind fun parameters => ?_
      refine .reading_bind fun body => ?_
      refine .reading_bind fun query => ?_
      refine .reading_bind fun page => ?_
      exact .ofAction_bind (Service.quiet_search _ _) fun _ => .pure _
  | deleteById segment =>
      refine .reading_bind fun id => ?_
      exact .reading_bind fun index => hdeindex index id
  | deleteByContent segment =>
      refine .reading_bind fun contentId => ?_
      refine .reading_bind fun index => ?_
      exact .ofAction_bind (Service.quiet_get _ _) fun _ => hdeindex index _

theorem served_serve (d : Depot) (s : Setup) (r : Request) :
    Served d (serve (backends d.replicaNames) s r d).2 := by
  rcases serve_world (backends d.replicaNames) s r d with hnone | ⟨route, hhandled⟩
  · rw [hnone]
    exact .read (.refl d)
  · rw [hhandled]
    exact serves_handle d s r route d (.refl d)

/-!
# Runs
-/

/-- What happens to a gateway in memory. -/
inductive Event where
  /-- A request is answered. -/
  | request (setup : Setup) (r : Request)
  /-- An index is created when the gateway starts. -/
  | index (name : String) (configuration : Option Json)
  /-- The reconciler makes a pass. -/
  | pass (pageSize : Nat)

def Event.effect (event : Event) (d : Depot) : Depot :=
  match event with
  | .request setup r => (serve (backends d.replicaNames) setup r d).2
  | .index name configuration => perform (.createIndex name configuration) d
  | .pass pageSize => perform (.reconcile pageSize) d

theorem served_effect (event : Event) (d : Depot) : Served d (event.effect d) := by
  cases event with
  | request setup r => exact served_serve d setup r
  | index name configuration =>
      exact .performed (.createIndex name configuration) (.refl d) trivial
  | pass pageSize => exact .performed (.reconcile pageSize) (.refl d) trivial

/--
The depots that events lead to from one without content and documents.  Memory holds no more
documents than a machine word counts.
-/
inductive Reached (replicas : List Replica) : Depot -> Prop where
  | start : Reached replicas (Depot.ofReplicas replicas)
  | step {d : Depot} {event : Event} :
      Reached replicas d ->
      (event.effect d).catalog.size ≤ largestWord ->
      Reached replicas (event.effect d)

/-- A depot in which nothing fails, and whose flags are true. -/
structure Sound (d : Depot) : Prop where
  healthy : Healthy d
  truthful : Truthful d.replicaNames d

namespace Sound

variable {d d' : Depot}

theorem quiet (h : Sound d) (hquiet : Quiet d d') : Sound d' where
  healthy := (h.healthy.tended.quiet hquiet).healthy
  truthful := (h.truthful.quiet hquiet).self

theorem perform (h : Sound d) (hfits : d.catalog.size ≤ largestWord)
    {operation : Service.Operation} (hplain : operation.Plain) :
    Sound (Service.perform operation d) where
  healthy := h.healthy.perform hplain
  truthful := (h.truthful.perform hfits hplain.allowed).self

theorem served (h : Sound d) (hfits : d.catalog.size ≤ largestWord) (hserved : Served d d') :
    Sound d' := by
  cases hserved with
  | read hquiet => exact h.quiet hquiet
  | performed operation hquiet hplain =>
      rcases hquiet with ⟨calls, rfl⟩
      exact (h.quiet ⟨calls, rfl⟩).perform hfits hplain

end Sound

namespace Reached

variable {replicas : List Replica} {d : Depot}

theorem fits (h : Reached replicas d) : d.catalog.size ≤ largestWord := by
  cases h with
  | start => exact Nat.zero_le _
  | step _ hfits => exact hfits

/-- Where every replica can let go of content, no event makes anything fail. -/
theorem sound (h : Reached replicas d) (hloose : forall r, r ∈ replicas -> r.stuck = false) :
    Sound d := by
  induction h with
  | start => exact ⟨Service.healthy_ofReplicas hloose, Service.truthful_ofReplicas replicas⟩
  | @step d event hbefore _ ih => exact ih.served hbefore.fits (served_effect event d)

end Reached

end Api
end ContentGateway
