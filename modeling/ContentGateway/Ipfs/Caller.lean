import ContentGateway.Backend
import ContentGateway.Http.Network
import ContentGateway.Ipfs.Error
import ContentGateway.Json.Record
import ContentGateway.Json.Text

/-!
# Calls to nodes, clusters and services

A call names a path below the address of its goal.  Every answer but a success is an
error, which takes its message from the answer.
-/

namespace ContentGateway
namespace Ipfs

abbrev Call (W : Type) (α : Type) := ExceptT Error (StateM W) α

/-- The failure of the gateway that a failed call amounts to. -/
def Call.action (call : Call W α) : Action W α :=
  fun w => let (answer, w) := call.run w; (answer.mapError Error.failure, w)

/-- A call whose failure means that a backend is not there. -/
def Call.connecting (backend : String) (call : Call W α) : Action W α :=
  fun w =>
    let (answer, w) := call.run w
    (answer.mapError fun e => .connection backend e.display, w)

/-- The message in the body of an answer; the body itself if it holds none. -/
def Error.messageOf (body : String) : String :=
  let slot : Slot String := ⟨["Message", "message"], true, fun t _ => Reading.string t⟩
  match JsonText.readStringAs (Reading.record [slot] "") body with
  | .ok message => message
  | .error _ => body

def Error.ofResponse (endpoint : String) (r : Http.Response) : Error :=
  .api endpoint r.status (messageOf r.text)

/-- Somebody who can be asked. -/
structure Caller (W : Type) where
  network : Http.Network W
  base : Url
  /-- How long a call may take. -/
  limit : Duration
  /-- What every request carries. -/
  headers : Http.Headers

namespace Caller

variable {W : Type}

/-- The host and port that are asked. -/
def address (c : Caller W) : String :=
  c.base.address

/-- The request for a path, which is put behind the text of the base. -/
def request? (c : Caller W) (method path : String) (parameters : List (String × String))
    (body : Http.Body) : Option Http.Request :=
  (Url.parse? (c.base.display ++ path)).map fun url =>
    ⟨method, url.withParameters parameters, c.headers, body⟩

def send (c : Caller W) (method path : String) (parameters : List (String × String))
    (body : Http.Body) : Call W Http.Response := do
  let endpoint := method ++ " /" ++ path
  let request := c.request? method path parameters body
  match ← c.network.persist c.limit request Http.Network.pauses with
  | .error why => throw (.http endpoint why)
  | .ok response =>
      if response.isSuccess then pure response else throw (.ofResponse endpoint response)

/-- Reads the body of an answer. -/
def decode (endpoint : String) (read : Reading α) (r : Http.Response) : Call W α :=
  match JsonText.readBytesAs read r.body with
  | .ok value => pure value
  | .error _ => throw (.deserialization endpoint withheld)

end Caller
end Ipfs
end ContentGateway
