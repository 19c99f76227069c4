import ContentGateway.Proofs.Ipfs.Unpinning

/-!
# Requests of calls

A call to a node, a cluster or the pinning service asks what its errand asks, and nothing else.
The requests are seen on a network that keeps them in a list.
-/

namespace ContentGateway

/-!
# Recorded networks
-/

namespace Http.Network

variable {W : Type}

def recorded (n : Network W) : Network (W × List Request) where
  send request limit := fun (w, sent) =>
    let (answer, w) := n.send request limit w
    (answer, (w, sent ++ [request]))
  pause limit := fun (w, sent) => ((), ((n.pause limit w).2, sent))

theorem recorded_persist {request : Request} (h : request.isSendable = true) (n : Network W)
    (limit : Duration) (pauses : List Duration) (w : W) (sent : List Request) :
    exists again, (n.recorded.persist limit (some request) pauses (w, sent)).2.2 =
      sent ++ List.replicate (again + 1) request := by
  have hcall : forall w sent, (n.recorded.call limit (some request) (w, sent)).2.2 =
      sent ++ [request] := by
    intro w sent
    unfold call
    simp only [h, if_true]
    rfl
  induction pauses generalizing w sent with
  | nil => exact ⟨0, hcall w sent⟩
  | cons pause pauses ih =>
      rw [persist, Action.state_bind_apply]
      have hfirst := hcall w sent
      rcases hrun : n.recorded.call limit (some request) (w, sent) with ⟨outcome, w', sent'⟩
      rw [hrun] at hfirst
      obtain rfl : sent' = sent ++ [request] := hfirst
      dsimp only
      split
      · rcases ih (n.pause pause w').2 (sent ++ [request]) with ⟨again, hagain⟩
        refine ⟨again + 1, hagain.trans ?_⟩
        rw [List.append_assoc, List.singleton_append, ← List.replicate_succ]
      · exact ⟨0, rfl⟩

theorem persist_of_unsendable {request : Option Request}
    (h : request.any Request.isSendable = false) (n : Network W) (limit : Duration)
    (pauses : List Duration) (w : W) : (n.persist limit request pauses w).2 = w := by
  have hcall : n.call limit request w = (.error .unsendable, w) := by
    unfold call
    cases request with
    | none => rfl
    | some request =>
        rw [Option.any_some] at h
        simp only [h, Bool.false_eq_true, if_false]
        rfl
  cases pauses with
  | nil => rw [persist, hcall]
  | cons pause pauses =>
      rw [persist, Action.state_bind_apply, hcall]
      rfl

end Http.Network

namespace Ipfs

variable {W α β ε : Type}

def Caller.recorded (c : Caller W) : Caller (W × List Http.Request) :=
  ⟨c.network.recorded, c.base, c.limit, c.headers⟩

/-!
# Worlds that calls leave
-/

/-- A call after which the world is that after an exchange. -/
def Leaves (call : StateM W α) (exchange : StateM W β) : Prop :=
  forall w, (call w).2 = (exchange w).2

def Idle (call : StateM W α) : Prop :=
  forall w, (call w).2 = w

theorem idle_pure (a : α) : Idle (pure a : ExceptT ε (StateM W) α) :=
  fun _ => rfl

theorem idle_throw (failure : ε) : Idle (throw failure : ExceptT ε (StateM W) α) :=
  fun _ => rfl

theorem idle_ofExcept (result : Except ε α) :
    Idle (MonadExcept.ofExcept result : ExceptT ε (StateM W) α) := by
  cases result with
  | ok a => exact idle_pure a
  | error failure => exact idle_throw failure

theorem idle_decode (endpoint : String) (read : Reading α) (r : Http.Response) :
    Idle (Caller.decode endpoint read r : Call W α) := by
  unfold Caller.decode
  split
  · exact idle_pure _
  · exact idle_throw _

theorem Leaves.andThen {call : ExceptT ε (StateM W) α} {exchange : StateM W β}
    (h : Leaves call exchange) {γ : Type} {next : α -> ExceptT ε (StateM W) γ}
    (hnext : forall a, Idle (next a)) :
    Leaves (call >>= next : ExceptT ε (StateM W) γ) exchange := by
  intro w
  rw [Action.exceptT_bind_apply, ← h w]
  cases call w with
  | mk answer w' =>
      cases answer with
      | error failure => rfl
      | ok a => exact hnext a w'

theorem Leaves.action {call : Call W α} {exchange : StateM W β} (h : Leaves call exchange) :
    Leaves call.action exchange :=
  h

theorem Leaves.connecting {call : Call W α} {exchange : StateM W β} (h : Leaves call exchange)
    (backend : String) : Leaves (call.connecting backend) exchange :=
  h

/-!
# Errands with addresses
-/

namespace Errand

def url? (e : Errand) (base : Url) : Option Url :=
  (Url.parse? (base.display ++ e.path)).map fun u => u.withParameters e.parameters

/-- The request is that of an errand to an address. -/
structure Describes (e : Errand) (base : Url) (r : Http.Request) : Prop where
  method : r.method = e.method
  url : e.url? base = some r.url
  body : r.body = e.body

theorem request?_eq (e : Errand) (c : Caller W) :
    e.request? c = (e.url? c.base).map fun u => ⟨e.method, u, c.headers, e.body⟩ := by
  unfold request? Caller.request? url?
  rw [Option.map_map]
  rfl

theorem describes_of_request? {e : Errand} {c : Caller W} {r : Http.Request}
    (h : e.request? c = some r) : e.Describes c.base r := by
  rw [request?_eq] at h
  rcases Option.map_eq_some_iff.mp h with ⟨u, hu, rfl⟩
  exact ⟨rfl, hu, rfl⟩

theorem any_isSendable_iff (e : Errand) (c : Caller W) :
    (e.request? c).any Http.Request.isSendable = true ↔
      exists r, e.Describes c.base r ∧ r.isSendable = true := by
  rw [request?_eq, Option.any_eq_true]
  constructor
  · rintro ⟨r, hr, hsendable⟩
    exact ⟨r, describes_of_request? ((request?_eq e c).trans hr), hsendable⟩
  · rintro ⟨r, hr, hsendable⟩
    exact ⟨⟨e.method, r.url, c.headers, e.body⟩, by rw [hr.url]; rfl, hsendable⟩

theorem exchange_recorded (e : Errand) (c : Caller W) (w : W) (sent : List Http.Request) :
    exists asked, (e.exchange c.recorded (w, sent)).2.2 = sent ++ asked ∧
      (forall r, r ∈ asked -> e.Describes c.base r) ∧
        (asked ≠ [] ↔ exists r, e.Describes c.base r ∧ r.isSendable = true) := by
  unfold exchange
  rw [← e.any_isSendable_iff c]
  have hrequest : e.request? c.recorded = e.request? c := rfl
  rw [hrequest]
  cases hsendable : (e.request? c).any Http.Request.isSendable with
  | true =>
      rcases (Option.any_eq_true _ _).mp hsendable with ⟨r, hr, hr'⟩
      rcases Http.Network.recorded_persist hr' c.network c.limit Http.Network.pauses w sent with
        ⟨again, hagain⟩
      refine ⟨_, hr ▸ hagain, ?_, by simp⟩
      intro r' hr'
      rw [List.eq_of_mem_replicate hr']
      exact describes_of_request? hr
  | false =>
      refine ⟨[], ?_, ?_, by simp⟩
      · rw [Http.Network.persist_of_unsendable hsendable, List.append_nil]
      · intro r hr
        cases hr

theorem leaves_run (e : Errand) (c : Caller W) : Leaves (e.run c) (e.exchange c) := by
  intro w
  rw [e.run_apply]

theorem leaves_send {e : Errand} {path : String} (h : e.path = path) (c : Caller W) :
    Leaves (c.send e.method path e.parameters e.body) (e.exchange c) := by
  subst h
  exact e.leaves_run c

end Errand

/-!
# Calls
-/

/-- A call to a node, a cluster or the pinning service. -/
inductive Chore where
  | version
  | add (content : Bytes) (pinned : Bool)
  | cat (id : String)
  | connectNode
  | connectCluster
  /-- The service is connected to for an account. -/
  | connectService (apiKey secret : String)
  | pin (s : Strategy) (id : String)
  | unpin (s : Strategy) (id : String)
  | list (s : Strategy)

namespace Chore

def procedure (segments : List String) (parameters : List (String × String)) : Errand :=
  ⟨"POST", "api" :: "v0" :: segments, parameters, .none⟩

def errand : Chore -> Errand
  | version => procedure ["version"] []
  | add content pinned =>
      { procedure ["add"] [("stream-channels", "true"), ("pin", if pinned then "true" else "false")]
          with body := .file content }
  | cat id => procedure ["cat"] [("arg", id)]
  | connectNode => procedure ["version"] []
  | connectCluster => ⟨"GET", ["id"], [], .none⟩
  | connectService _ _ => ⟨"GET", ["data", "testAuthentication"], [], .none⟩
  | pin .node id => procedure ["pin", "add"] [("arg", id)]
  | pin .cluster id => ⟨"POST", ["pins", id], [], .none⟩
  | pin (.service hosts) id =>
      ⟨"POST", ["pinning", "pinHashToIPFS"], [], .json (Pinata.pinBody hosts id)⟩
  | unpin s id => s.unpinning id
  | list .node => procedure ["pin", "ls"] [("type", "recursive")]
  | list .cluster => ⟨"GET", ["pins"], [], .none⟩
  | list (.service _) =>
      ⟨"GET", ["data", "pinList"], [("status", "pinned"), ("pageLimit", "1000")], .none⟩

def run : Chore -> Caller W -> Action W Unit
  | version, c => do let _ ← (Node.version c).action
  | add content pinned, c => do let _ ← (Node.add c content pinned).action
  | cat id, c => do let _ ← (Node.cat c id).action
  | connectNode, c => do let _ ← Node.connect c
  | connectCluster, c => do let _ ← Cluster.connect c
  | connectService apiKey secret, c => do
      let _ ← Pinata.connect c.network c.limit ⟨c.base, apiKey, secret⟩
  | pin s id, c => (s.target c).pin id
  | unpin s id, c => (s.target c).unpin id
  | list s, c => do let _ ← (s.target c).tracked

def isCarried : Chore -> Bool
  | connectService apiKey secret => Http.isHeaderText apiKey && Http.isHeaderText secret
  | _ => true

/-- What the requests of a call carry; nothing is asked for an account that headers cannot carry. -/
def headers? : Chore -> Caller W -> Option Http.Headers
  | connectService apiKey secret, c => (Pinata.headers ⟨c.base, apiKey, secret⟩).toOption
  | _, c => some c.headers

theorem isSome_headers? (chore : Chore) (c : Caller W) :
    (chore.headers? c).isSome = chore.isCarried := by
  cases chore with
  | connectService apiKey secret =>
      show (Pinata.headers ⟨c.base, apiKey, secret⟩).toOption.isSome =
        (Http.isHeaderText apiKey && Http.isHeaderText secret)
      unfold Pinata.headers
      cases Http.isHeaderText apiKey with
      | false => rfl
      | true =>
          cases Http.isHeaderText secret with
          | false => rfl
          | true => rfl
  | _ => rfl

theorem headers?_recorded (chore : Chore) (c : Caller W) :
    chore.headers? c.recorded = chore.headers? c := by
  cases chore with
  | _ => rfl

/-!
# Worlds after calls
-/

theorem leaves_version (c : Caller W) : Leaves (Node.version c) (version.errand.exchange c) := by
  have hpath : version.errand.path = Node.procedure "version" := rfl
  unfold Node.version Node.call
  exact Leaves.andThen (Errand.leaves_send hpath c) fun r => idle_decode _ _ r

theorem leaves_add (c : Caller W) (content : Bytes) (pinned : Bool) :
    Leaves (Node.add c content pinned) ((add content pinned).errand.exchange c) := by
  have hpath : (add content pinned).errand.path = Node.procedure "add" := rfl
  unfold Node.add
  exact Leaves.andThen (Errand.leaves_send hpath c) fun _ => idle_ofExcept _

theorem leaves_cat (c : Caller W) (id : String) :
    Leaves (Node.cat c id) ((cat id).errand.exchange c) := by
  have hpath : (cat id).errand.path = Node.procedure "cat" := rfl
  unfold Node.cat Node.call
  exact Leaves.andThen (Errand.leaves_send hpath c) fun _ => idle_pure _

theorem leaves_pin (s : Strategy) (c : Caller W) (id : String) :
    Leaves ((s.target c).pin id) ((pin s id).errand.exchange c) := by
  cases s with
  | node =>
      have hpath : (pin .node id).errand.path = Node.procedure "pin/add" := rfl
      show Leaves (Node.pin c id).action _
      unfold Node.pin Node.call
      exact (Leaves.andThen (Errand.leaves_send hpath c) fun _ => idle_pure ()).action
  | cluster =>
      have hpath : (pin .cluster id).errand.path = "pins/" ++ id := rfl
      show Leaves (Cluster.pin c id).action _
      unfold Cluster.pin
      exact (Leaves.andThen (Errand.leaves_send hpath c) fun _ => idle_pure ()).action
  | service hosts =>
      have hpath : (pin (.service hosts) id).errand.path = "pinning/pinHashToIPFS" := rfl
      show Leaves (Pinata.pin c hosts id).action _
      unfold Pinata.pin
      exact (Leaves.andThen (Errand.leaves_send hpath c) fun _ => idle_pure ()).action

theorem leaves_unpin (s : Strategy) (c : Caller W) (id : String) :
    Leaves ((s.target c).unpin id) ((unpin s id).errand.exchange c) := by
  intro w
  rw [s.unpin_apply]
  rfl

theorem leaves_list (s : Strategy) (c : Caller W) :
    Leaves (s.target c).tracked ((list s).errand.exchange c) := by
  cases s with
  | node =>
      have hpath : (list .node).errand.path = Node.procedure "pin/ls" := rfl
      show Leaves (Node.pins c).action _
      unfold Node.pins Node.call
      exact (Leaves.andThen (Errand.leaves_send hpath c) fun r => idle_decode _ _ r).action
  | cluster =>
      have hpath : (list .cluster).errand.path = "pins" := rfl
      show Leaves (Cluster.pins c).action _
      unfold Cluster.pins
      refine (Leaves.andThen (Errand.leaves_send hpath c) ?_).action
      intro r
      split
      · exact idle_pure _
      · exact idle_throw _
  | service hosts =>
      have hpath : (list (.service hosts)).errand.path = "data/pinList" := rfl
      show Leaves (Pinata.pins c).action _
      unfold Pinata.pins
      exact (Leaves.andThen (Errand.leaves_send hpath c) fun r => idle_decode _ _ r).action

theorem leaves_connectService {apiKey secret : String} {c : Caller W} {headers : Http.Headers}
    (h : Pinata.headers ⟨c.base, apiKey, secret⟩ = .ok headers) :
    Leaves (Pinata.connect c.network c.limit ⟨c.base, apiKey, secret⟩)
      ((connectService apiKey secret).errand.exchange ⟨c.network, c.base, c.limit, headers⟩) := by
  have hpath : (connectService apiKey secret).errand.path = "data/testAuthentication" := rfl
  have hcaller : Pinata.callerOf c.network c.limit ⟨c.base, apiKey, secret⟩ =
      .ok ⟨c.network, c.base, c.limit, headers⟩ := by
    unfold Pinata.callerOf
    rw [h]
    rfl
  unfold Pinata.connect
  rw [hcaller]
  show Leaves (pure _ >>= _ : Action W (PinTarget W)) _
  rw [pure_bind]
  exact ((Errand.leaves_send hpath _).connecting _).andThen fun _ => idle_pure _

theorem idle_connectService {apiKey secret : String} {c : Caller W} {failure : Error}
    (h : Pinata.headers ⟨c.base, apiKey, secret⟩ = .error failure) :
    Idle (Pinata.connect c.network c.limit ⟨c.base, apiKey, secret⟩) := by
  have hcaller : Pinata.callerOf c.network c.limit ⟨c.base, apiKey, secret⟩ = .error failure := by
    unfold Pinata.callerOf
    rw [h]
    rfl
  intro w
  unfold Pinata.connect
  rw [hcaller, Action.bind_apply]
  rfl

/-- After a call the world is that after the exchange of its errand. -/
theorem run_world (chore : Chore) (c : Caller W) (w : W) :
    (chore.run c w).2 =
      match chore.headers? c with
      | some headers => (chore.errand.exchange ⟨c.network, c.base, c.limit, headers⟩ w).2
      | none => w := by
  cases chore with
  | version => exact (leaves_version c).action.andThen (fun _ => idle_pure ()) w
  | add content pinned =>
      exact (leaves_add c content pinned).action.andThen (fun _ => idle_pure ()) w
  | cat id => exact (leaves_cat c id).action.andThen (fun _ => idle_pure ()) w
  | connectNode =>
      have hconnect := ((leaves_version c).connecting (Node.name c)).andThen
        fun _ => idle_pure (Node.target c)
      exact hconnect.andThen (fun _ => idle_pure ()) w
  | connectCluster =>
      have hpath : connectCluster.errand.path = "id" := rfl
      have hconnect := ((Errand.leaves_send hpath c).connecting (Cluster.name c)).andThen
        fun _ => idle_pure (Cluster.target c)
      exact hconnect.andThen (fun _ => idle_pure ()) w
  | connectService apiKey secret =>
      show _ = match (Pinata.headers ⟨c.base, apiKey, secret⟩).toOption with
        | some headers => _
        | none => w
      cases hheaders : Pinata.headers ⟨c.base, apiKey, secret⟩ with
      | ok headers => exact (leaves_connectService hheaders).andThen (fun _ => idle_pure ()) w
      | error failure =>
          have hconnect : Leaves (Pinata.connect c.network c.limit ⟨c.base, apiKey, secret⟩)
              (pure () : StateM W Unit) := idle_connectService hheaders
          exact hconnect.andThen (fun _ => idle_pure ()) w
  | pin s id => exact leaves_pin s c id w
  | unpin s id => exact leaves_unpin s c id w
  | list s => exact (leaves_list s c).andThen (fun _ => idle_pure ()) w

/-- A call asks its errand and nothing else, and it asks if it can. -/
theorem run_recorded (chore : Chore) (c : Caller W) (w : W) (sent : List Http.Request) :
    exists asked, (chore.run c.recorded (w, sent)).2.2 = sent ++ asked ∧
      (forall r, r ∈ asked -> chore.errand.Describes c.base r) ∧
        (asked ≠ [] ↔ chore.isCarried = true ∧
          exists r, chore.errand.Describes c.base r ∧ r.isSendable = true) := by
  rw [run_world, headers?_recorded, ← chore.isSome_headers? c]
  cases chore.headers? c with
  | none =>
      refine ⟨[], (List.append_nil _).symm, ?_, by simp⟩
      intro r hr
      cases hr
  | some headers =>
      have hcaller : (⟨c.recorded.network, c.recorded.base, c.recorded.limit, headers⟩ : Caller _) =
          Caller.recorded ⟨c.network, c.base, c.limit, headers⟩ := rfl
      simp only [hcaller, Option.isSome_some, true_and]
      exact chore.errand.exchange_recorded ⟨c.network, c.base, c.limit, headers⟩ w sent

end Chore

end Ipfs
end ContentGateway
