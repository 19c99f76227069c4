import ContentGateway.Duration
import ContentGateway.Http.Message

/-!
# Networks

What a world has to offer to those who ask others: requests are sent and time can be
let pass.  A request that finds nobody may be sent again after a pause; any other
outcome is final.
-/

namespace ContentGateway
namespace Http

structure Network (W : Type) where
  /-- Sends a request.  The response comes back within the limit or the call breaks down. -/
  send : Request -> Duration -> StateM W (Except Breakdown Response)
  /-- Lets time pass. -/
  pause : Duration -> StateM W Unit

namespace Network

variable {W : Type}

/-- A network in which nobody can be reached. -/
def unreachable (pause : Duration -> StateM W Unit) : Network W :=
  ⟨fun _ _ => pure (.error .connect), pause⟩

/-- Sends a request, if there is one and it can be sent. -/
def call (n : Network W) (limit : Duration) (request : Option Request) :
    StateM W (Except Breakdown Response) :=
  match request with
  | none => pure (.error .unsendable)
  | some r => if r.isSendable then n.send r limit else pure (.error .unsendable)

/-- Sends a request again after each pause as long as no connection is made. -/
def persist (n : Network W) (limit : Duration) (request : Option Request) :
    List Duration -> StateM W (Except Breakdown Response)
  | [] => n.call limit request
  | pause :: pauses => do
      match ← n.call limit request with
      | .error .connect =>
          n.pause pause
          n.persist limit request pauses
      | outcome => pure outcome

/-- Three pauses, each twice as long as the one before. -/
def pauses : List Duration :=
  [.ofMillis 200, .ofMillis 400, .ofMillis 800]

end Network
end Http
end ContentGateway
