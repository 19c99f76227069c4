import ContentGateway.Proofs.Ipfs.Errands
import ContentGateway.Proofs.Service.Removal

/-!
# Letting go of content that is not pinned

A node and a cluster take the news that content is not pinned as a success.  The pinning
service takes it as a failure like any other, and a removal fails with it.
-/

namespace ContentGateway
namespace Ipfs

variable {W : Type}

/-!
# One replica
-/

theorem action_apply {α : Type} (call : Call W α) (w : W) :
    call.action w = ((call w).1.mapError Error.failure, (call w).2) := rfl

theorem run_unit_apply (e : Errand) (c : Caller W) (w : W) :
    (e.run c >>= fun _ => pure () : Call W Unit) w =
      ((e.verdict (e.exchange c w).1).map fun _ => (), (e.exchange c w).2) := by
  rw [Action.exceptT_bind_apply, e.run_apply]
  cases e.verdict (e.exchange c w).1 with
  | ok r => rfl
  | error error => rfl

/-- An answer of which only the failures matter, but for those that are excused. -/
def excuse {α : Type} (excused : Error -> Bool) : Except Error α -> Except Error Unit
  | .ok _ => .ok ()
  | .error error => if excused error then .ok () else .error error

theorem excuse_none {α : Type} (answer : Except Error α) :
    excuse (fun _ => false) answer = answer.map fun _ => () := by
  cases answer with
  | ok answer => rfl
  | error error => rfl

theorem run_excused_apply (e : Errand) (c : Caller W) (excused : Error -> Bool) (w : W) :
    (tryCatch (e.run c >>= fun _ => pure ()) fun error =>
      if excused error then pure () else throw error : Call W Unit) w =
      (excuse excused (e.verdict (e.exchange c w).1), (e.exchange c w).2) := by
  rw [Action.exceptT_catch_apply, run_unit_apply]
  cases e.verdict (e.exchange c w).1 with
  | ok r => rfl
  | error error =>
      dsimp only [Except.map, excuse]
      split
      · rfl
      · rfl

namespace Strategy

def forgives : Strategy -> Error -> Bool
  | .node, e => e.isNotPinned
  | .cluster, e => e.isNotFound || e.isNotPinned
  | .service _, _ => false

theorem forgives_service (hosts : List String) : forgives (.service hosts) = fun _ => false := rfl

def isService : Strategy -> Bool
  | .service _ => true
  | _ => false

/-- What becomes of the answer to the errand. -/
def settle (s : Strategy) (answer : Except Error Http.Response) : Except Failure Unit :=
  (excuse s.forgives answer).mapError Error.failure

theorem unpin_apply (s : Strategy) (c : Caller W) (id : String) (w : W) :
    (s.target c).unpin id w =
      (s.settle ((s.unpinning id).verdict ((s.unpinning id).exchange c w).1),
        ((s.unpinning id).exchange c w).2) := by
  unfold settle
  cases s with
  | node =>
      show (Node.unpin c id).action w = _
      have hcall : Node.unpin c id w = _ :=
        run_excused_apply (unpinning .node id) c (forgives .node) w
      rw [action_apply, hcall]
  | cluster =>
      show (Cluster.unpin c id).action w = _
      have hcall : Cluster.unpin c id w = _ :=
        run_excused_apply (unpinning .cluster id) c (forgives .cluster) w
      rw [action_apply, hcall]
  | service hosts =>
      show (Pinata.unpin c id).action w = _
      have hcall : Pinata.unpin c id w = _ := run_unit_apply (unpinning (.service hosts) id) c w
      rw [action_apply, hcall, forgives_service, excuse_none]

theorem forgives_of_notPinned {e : Error} (h : e.isNotPinned = true) (s : Strategy) :
    s.forgives e = !s.isService := by
  cases s with
  | node => exact h
  | cluster =>
      show (e.isNotFound || e.isNotPinned) = true
      rw [h, Bool.or_true]
  | service hosts => rfl

theorem forgives_of_other {e : Error} (hpinned : e.isNotPinned = false)
    (hfound : e.isNotFound = false) (s : Strategy) : s.forgives e = false := by
  cases s with
  | node => exact hpinned
  | cluster =>
      show (e.isNotFound || e.isNotPinned) = false
      rw [hpinned, hfound, Bool.or_false]
  | service hosts => rfl

theorem settle_refusal (s : Strategy) (e : Errand) {r : Http.Response}
    (hr : r.isSuccess = false) :
    s.settle (e.verdict (.ok r)) =
      if s.forgives (e.refusal r) then .ok () else .error (e.refusal r).failure := by
  unfold settle Errand.verdict
  simp only [hr, Bool.false_eq_true, if_false, excuse]
  split
  · rfl
  · rfl

theorem settle_success (s : Strategy) (e : Errand) {r : Http.Response}
    (hr : r.isSuccess = true) : s.settle (e.verdict (.ok r)) = .ok () := by
  unfold settle Errand.verdict
  simp only [hr, if_true, excuse]
  rfl

end Strategy

/-!
# The replicas of a removed document
-/

def targets (replicas : List (Strategy × Caller W)) : List (PinTarget W) :=
  replicas.map fun r => r.1.target r.2

def outcomes (id : String) :
    List (Strategy × Caller W) -> StateM W (List (Except Http.Breakdown Http.Response))
  | [] => pure []
  | r :: rest => do
      let outcome ← (r.1.unpinning id).exchange r.2
      let others ← outcomes id rest
      pure (outcome :: others)

theorem outcomes_cons (id : String) (r : Strategy × Caller W) (rest : List (Strategy × Caller W))
    (w : W) :
    outcomes id (r :: rest) w =
      (((r.1.unpinning id).exchange r.2 w).1 ::
          (outcomes id rest ((r.1.unpinning id).exchange r.2 w).2).1,
        (outcomes id rest ((r.1.unpinning id).exchange r.2 w).2).2) := by
  rw [outcomes, Action.state_bind_apply, Action.state_bind_apply]
  rfl

def settled (id : String) (p : (Strategy × Caller W) × Except Http.Breakdown Http.Response) :
    Except Failure Unit :=
  p.1.1.settle ((p.1.1.unpinning id).verdict p.2)

theorem answersOf_targets (id : String) (replicas : List (Strategy × Caller W)) (w : W) :
    answersOf ((targets replicas).map fun t => t.unpin id) w =
      ((replicas.zip (outcomes id replicas w).1).map (settled id), (outcomes id replicas w).2) := by
  induction replicas generalizing w with
  | nil => rfl
  | cons r rest ih =>
      have htargets : targets (r :: rest) = r.1.target r.2 :: targets rest := rfl
      rw [htargets, List.map_cons, answersOf_cons, Strategy.unpin_apply, ih, outcomes_cons]
      simp only [List.zip_cons_cons, List.map_cons, settled]

theorem firstFailure_eq_none_iff (answers : List (Except Failure Unit)) :
    firstFailure answers = none ↔ forall answer, answer ∈ answers -> answer = .ok () := by
  induction answers with
  | nil => simp [firstFailure]
  | cons answer rest ih =>
      cases answer with
      | error failure => simp [firstFailure]
      | ok _ => simp [firstFailure, ih]

/-- A removal that goes well until the content is to be released, in the second world. -/
structure Removes (b : Backends W) (index id contentId : String) (w w' : W) : Prop where
  named : nonBlank (some index) ≠ none ∧ nonBlank (some id) ≠ none
  found : exists metadata v, b.indexer.fetch index id w = (.ok metadata, v) ∧
    metadata.contentId = some contentId ∧ b.indexer.remove index id v = (.ok (), w')

theorem Removes.deindex {b : Backends W} {index id contentId : String} {w w' : W}
    (h : Removes b index id contentId w w') :
    Service.deindex b index id w = Service.afterRemoval b (some contentId) w' := by
  rcases h.found with ⟨metadata, v, hfetch, hcontent, hremove⟩
  unfold Service.deindex
  rw [Service.requireText_of_present h.named.1, Service.requireText_of_present h.named.2,
    Action.bind_apply, Action.check_apply]
  simp only
  rw [Action.bind_apply, Action.check_apply]
  simp only
  rw [Action.bind_apply, hfetch]
  simp only
  rw [Action.bind_apply, hremove]
  simp only
  rw [hcontent]
  rfl

theorem afterRemoval_answer (b : Backends W) (contentId : String) (w : W) :
    (Service.afterRemoval b (some contentId) w).1 =
      match (unpinEverywhere b.storage.replicas contentId w).1 with
      | some failure => .error failure
      | none => .ok .ok := by
  unfold Service.afterRemoval Service.release
  simp only
  rw [Action.bind_apply, Action.bind_apply, Action.sure_apply]
  simp only
  cases (unpinEverywhere b.storage.replicas contentId w).1 with
  | none =>
      cases b.storage.replicas.isEmpty with
      | true => rfl
      | false => rfl
  | some failure =>
      cases b.storage.replicas.isEmpty with
      | true => rfl
      | false => rfl

/-!
# Replicas without the content
-/

/-- A replica has let go of the content, or says that it does not keep it. -/
def IsWithout (e : Errand) (outcome : Except Http.Breakdown Http.Response) : Prop :=
  exists r, outcome = .ok r ∧ (r.isSuccess = true ∨ (e.refusal r).isNotPinned = true)

theorem settled_of_without {id : String}
    {p : (Strategy × Caller W) × Except Http.Breakdown Http.Response}
    (h : IsWithout (p.1.1.unpinning id) p.2) :
    settled id p = .ok () ↔
      (p.1.1.isService = true -> exists r, p.2 = .ok r ∧ r.isSuccess = true) := by
  rcases p with ⟨⟨s, c⟩, outcome⟩
  rcases h with ⟨r, rfl, hwithout⟩
  show s.settle _ = _ ↔ _
  cases hsuccess : r.isSuccess with
  | true =>
      rw [s.settle_success _ hsuccess]
      exact ⟨fun _ _ => ⟨r, rfl, hsuccess⟩, fun _ => rfl⟩
  | false =>
      have hnotPinned := hwithout.resolve_left (ne_true_of_eq_false hsuccess)
      rw [s.settle_refusal _ hsuccess, Strategy.forgives_of_notPinned hnotPinned]
      cases s.isService with
      | false =>
          constructor
          · intro _ hservice
            cases hservice
          · exact fun _ => rfl
      | true =>
          constructor
          · intro hok
            cases hok
          · intro hservice
            rcases hservice rfl with ⟨r', hr', hsuccess'⟩
            cases hr'
            rw [hsuccess] at hsuccess'
            cases hsuccess'

/-- The removal of a document whose replicas are all without its content. -/
theorem Removes.deindex_eq_ok_iff {b : Backends W} {index id contentId : String} {w w' : W}
    (h : Removes b index id contentId w w') {replicas : List (Strategy × Caller W)}
    (hreplicas : b.storage.replicas = targets replicas)
    (hwithout : forall p, p ∈ replicas.zip (outcomes contentId replicas w').1 ->
      IsWithout (p.1.1.unpinning contentId) p.2) :
    (Service.deindex b index id w).1 = .ok .ok ↔
      forall p, p ∈ replicas.zip (outcomes contentId replicas w').1 -> p.1.1.isService = true ->
        exists r, p.2 = .ok r ∧ r.isSuccess = true := by
  have hnone : (Service.deindex b index id w).1 = .ok .ok ↔
      firstFailure ((replicas.zip (outcomes contentId replicas w').1).map (settled contentId)) =
        none := by
    rw [h.deindex, afterRemoval_answer, hreplicas, unpinEverywhere_eq, answersOf_targets]
    cases firstFailure ((replicas.zip (outcomes contentId replicas w').1).map
        (settled contentId)) with
    | none => exact ⟨fun _ => rfl, fun _ => rfl⟩
    | some failure =>
        constructor
        · intro hok
          cases hok
        · intro hnone
          cases hnone
  rw [hnone, firstFailure_eq_none_iff, List.forall_mem_map]
  exact forall_congr' fun p => forall_congr' fun hp => settled_of_without (hwithout p hp)

/-!
# Content that is not pinned
-/

def replying (W : Type) (r : Http.Response) : Caller W :=
  ⟨⟨fun _ _ => pure (.ok r), fun _ => pure ()⟩,
    ⟨"http", some ⟨"", "", .domain "pin.test", none⟩, .segments [""], none, none⟩, .ofSeconds 1, []⟩

theorem exchange_replying {e : Errand} {r : Http.Response}
    (h : (e.request? (replying W r)).any Http.Request.isSendable = true) (w : W) :
    e.exchange (replying W r) w = (.ok r, w) :=
  Errand.exchange_of_answer h fun _ => rfl

def unpinnedResponse : Http.Response :=
  ⟨500, Utf8.ofString "not pinned"⟩

def filed : Depot :=
  let created := (Service.createIndex (Depot.backends []) "docs" none (Depot.ofReplicas [])).2
  (Service.indexAndReplicate (Depot.backends [])
    (.reference ⟨"docs", some "1", none, []⟩ "QmA") created).2

def forgetful : List (Strategy × Caller Depot) :=
  [(.node, replying Depot unpinnedResponse), (.cluster, replying Depot unpinnedResponse)]

def filedBackends : Backends Depot :=
  ⟨{ Depot.storage [] with replicas := targets forgetful }, Depot.indexer⟩

theorem outcomes_forgetful (w : Depot) :
    (outcomes "QmA" forgetful w).1 = [.ok unpinnedResponse, .ok unpinnedResponse] := by
  have hnode : (Strategy.node.unpinning "QmA").exchange (replying Depot unpinnedResponse) w =
      (.ok unpinnedResponse, w) := exchange_replying (by decide +kernel) w
  have hcluster : (Strategy.cluster.unpinning "QmA").exchange (replying Depot unpinnedResponse) w =
      (.ok unpinnedResponse, w) := exchange_replying (by decide +kernel) w
  unfold forgetful
  rw [outcomes_cons, outcomes_cons, hnode, hcluster]
  rfl

theorem without_forgetful {w : Depot}
    {p : (Strategy × Caller Depot) × Except Http.Breakdown Http.Response}
    (h : p ∈ forgetful.zip (outcomes "QmA" forgetful w).1) :
    IsWithout (p.1.1.unpinning "QmA") p.2 ∧ p.1.1.isService = false := by
  rw [outcomes_forgetful] at h
  have hp : p = ((.node, replying Depot unpinnedResponse), .ok unpinnedResponse) ∨
      p = ((.cluster, replying Depot unpinnedResponse), .ok unpinnedResponse) := by
    simpa [forgetful] using h
  rcases hp with rfl | rfl
  · exact ⟨⟨_, rfl, .inr (by decide +kernel)⟩, rfl⟩
  · exact ⟨⟨_, rfl, .inr (by decide +kernel)⟩, rfl⟩

/--
A replica that answers that the content is not pinned has let go of it, unless it is the
pinning service, which fails; any other refusal but that the content is unknown is a failure of
every replica.  So a removal whose replicas are without the content fails exactly if one of them
is the service and refused.
-/
theorem unpin_notPinned :
    (forall (s : Strategy) (c : Caller W) (id : String) (w w' : W) (r : Http.Response),
      (s.unpinning id).exchange c w = (.ok r, w') -> r.isSuccess = false ->
        (((s.unpinning id).refusal r).isNotPinned = true ->
          (s.target c).unpin id w =
            (if s.isService then .error ((s.unpinning id).refusal r).failure else .ok (), w')) ∧
        (((s.unpinning id).refusal r).isNotPinned = false ->
          ((s.unpinning id).refusal r).isNotFound = false ->
            (s.target c).unpin id w = (.error ((s.unpinning id).refusal r).failure, w'))) ∧
    forall (b : Backends W) (replicas : List (Strategy × Caller W)) (index id contentId : String)
      (w w' : W), b.storage.replicas = targets replicas -> Removes b index id contentId w w' ->
        (forall p, p ∈ replicas.zip (outcomes contentId replicas w').1 ->
          IsWithout (p.1.1.unpinning contentId) p.2) ->
        ((Service.deindex b index id w).1 = .ok .ok ↔
          forall p, p ∈ replicas.zip (outcomes contentId replicas w').1 ->
            p.1.1.isService = true -> exists r, p.2 = .ok r ∧ r.isSuccess = true) := by
  constructor
  · intro s c id w w' r hexchange hr
    rw [s.unpin_apply, hexchange]
    simp only [s.settle_refusal _ hr]
    constructor
    · intro hnotPinned
      rw [Strategy.forgives_of_notPinned hnotPinned]
      cases s.isService with
      | false => rfl
      | true => rfl
    · intro hpinned hfound
      rw [Strategy.forgives_of_other hpinned hfound]
      rfl
  · intro b replicas index id contentId w w' hreplicas hremoves hwithout
    exact hremoves.deindex_eq_ok_iff hreplicas hwithout

theorem unpin_notPinned_refused :
    ((Strategy.service []).target (replying Unit unpinnedResponse)).unpin "QmA" () =
      (.error (((Strategy.service []).unpinning "QmA").refusal unpinnedResponse).failure, ()) ∧
    (Strategy.node.target (replying Unit unpinnedResponse)).unpin "QmA" () = (.ok (), ()) ∧
    exists w', Removes filedBackends "docs" "1" "QmA" filed w' ∧
      (Service.deindex filedBackends "docs" "1" filed).1 = .ok .ok := by
  refine ⟨?_, ?_, ?_⟩
  · exact (unpin_notPinned.1 (.service []) _ "QmA" () () unpinnedResponse
      (exchange_replying (by decide +kernel) ()) (by decide)).1 (by decide +kernel)
  · exact (unpin_notPinned.1 .node _ "QmA" () () unpinnedResponse
      (exchange_replying (by decide +kernel) ()) (by decide)).1 (by decide +kernel)
  · have hremoves : exists w', Removes filedBackends "docs" "1" "QmA" filed w' :=
      ⟨_, ⟨by decide, by decide⟩, _, _, rfl, rfl, rfl⟩
    rcases hremoves with ⟨w', hremoves⟩
    refine ⟨w', hremoves, ?_⟩
    refine (unpin_notPinned.2 filedBackends forgetful "docs" "1" "QmA" filed w' rfl hremoves
      ?_).mpr ?_
    · exact fun p hp => (without_forgetful hp).1
    · intro p hp hservice
      rw [(without_forgetful hp).2] at hservice
      cases hservice

/-- The service fails although it says that the content is not pinned. -/
theorem service_fails_notPinned :
    ¬ forall (W : Type) (s : Strategy) (c : Caller W) (id : String) (w w' : W)
      (r : Http.Response), (s.unpinning id).exchange c w = (.ok r, w') -> r.isSuccess = false ->
        ((s.unpinning id).refusal r).isNotPinned = true ->
          ((s.target c).unpin id w).1 = .ok () := by
  intro h
  have hexchange : ((Strategy.service []).unpinning "QmA").exchange
      (replying Unit unpinnedResponse) () = (.ok unpinnedResponse, ()) :=
    exchange_replying (by decide +kernel) ()
  have hok := h Unit (.service []) _ "QmA" () () unpinnedResponse hexchange (by decide)
    (by decide +kernel)
  rw [Strategy.unpin_apply, hexchange] at hok
  rw [Strategy.settle_refusal (.service []) _ (by decide)] at hok
  cases hok

end Ipfs
end ContentGateway
