import ContentGateway.Ipfs.Pinata
import ContentGateway.Ipfs.Storage
import ContentGateway.Proofs.Action

/-!
# Errands

Every call to a node, a cluster or the pinning service sends one request, again and again as
long as nobody is reached.  An errand is such a request before it has an address; a call is
the errand that it runs and what it makes of the answer.
-/

namespace ContentGateway
namespace Ipfs

variable {W : Type}

/-!
# What is asked
-/

/-- A method, the segments of a path, parameters, and what is carried. -/
structure Errand where
  method : String
  segments : List String
  parameters : List (String × String)
  body : Http.Body

namespace Errand

def path (e : Errand) : String :=
  String.intercalate "/" e.segments

def endpoint (e : Errand) : String :=
  e.method ++ " /" ++ e.path

def request? (e : Errand) (c : Caller W) : Option Http.Request :=
  c.request? e.method e.path e.parameters e.body

def exchange (e : Errand) (c : Caller W) : StateM W (Except Http.Breakdown Http.Response) :=
  c.network.persist c.limit (e.request? c) Http.Network.pauses

def run (e : Errand) (c : Caller W) : Call W Http.Response :=
  c.send e.method e.path e.parameters e.body

/-- The failure that a response amounts to that is no success. -/
def refusal (e : Errand) (r : Http.Response) : Error :=
  .ofResponse e.endpoint r

/-- What a call makes of what comes back. -/
def verdict (e : Errand) : Except Http.Breakdown Http.Response -> Except Error Http.Response
  | .error why => .error (.http e.endpoint why)
  | .ok r => if r.isSuccess then .ok r else .error (e.refusal r)

theorem run_apply (e : Errand) (c : Caller W) (w : W) :
    e.run c w = (e.verdict (e.exchange c w).1, (e.exchange c w).2) := by
  unfold run Caller.send
  rw [Action.exceptT_bind_apply, Action.exceptT_lift_apply]
  have hexchange : c.network.persist c.limit (c.request? e.method e.path e.parameters e.body)
      Http.Network.pauses w = e.exchange c w := rfl
  rw [hexchange]
  cases e.exchange c w with
  | mk outcome w' =>
      cases outcome with
      | error why => rfl
      | ok r =>
          simp only [verdict]
          split
          · rfl
          · rfl

theorem exchange_of_answer {e : Errand} {c : Caller W}
    (h : (e.request? c).any Http.Request.isSendable = true) {w w' : W} {r : Http.Response}
    (hanswer : forall request, c.network.send request c.limit w = (.ok r, w')) :
    e.exchange c w = (.ok r, w') := by
  unfold exchange
  cases hrequest : e.request? c with
  | none =>
      rw [hrequest] at h
      cases h
  | some request =>
      rw [hrequest, Option.any_some] at h
      have hcall : c.network.call c.limit (some request) w = (.ok r, w') := by
        unfold Http.Network.call
        simp only [h, if_true]
        exact hanswer request
      rw [Http.Network.pauses, Http.Network.persist, Action.state_bind_apply, hcall]
      rfl

end Errand

/-!
# Who is asked
-/

inductive Strategy where
  | node
  | cluster
  /-- The pinning service, which is told the hosts that have the content. -/
  | service (hosts : List String)

namespace Strategy

def target : Strategy -> Caller W -> PinTarget W
  | .node => Node.target
  | .cluster => Cluster.target
  | .service hosts => fun c => Pinata.target c hosts

def unpinning : Strategy -> String -> Errand
  | .node, id => ⟨"POST", ["api", "v0", "pin", "rm"], [("arg", id)], .none⟩
  | .cluster, id => ⟨"DELETE", ["pins", id], [], .none⟩
  | .service _, id =>
      ⟨"POST", ["pinning", "removePinFromIPFS"], [], .json (Pinata.unpinBody id)⟩

end Strategy

end Ipfs
end ContentGateway
