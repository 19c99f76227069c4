import ContentGateway.Backend
import ContentGateway.Ipfs.Node

/-!
# Clusters

A cluster pins content on all its nodes.  It lists its pins as an array or, line by
line, as objects; either way an identity is a string or a link to it.
-/

namespace ContentGateway
namespace Ipfs
namespace Cluster

variable {W : Type}

/-!
# Lists of pins
-/

/--
An identity: a string, or an object that holds it under a slash.  Which of the two it is
shows only at its end, so all of it has to be well-formed.
-/
def identity : Reading String := fun t =>
  match t.toJson with
  | .error e => .error e
  | .ok _ =>
      match t with
      | .string (some s) => .ok s
      | t => Reading.object [.required "/" Reading.string fun s _ => s] "" t

def pinReading : Reading String :=
  Reading.record [.required "cid" identity fun s _ => s] ""

/-- The identities in a list of pins. -/
def parsePins (body : String) : Except Fault (List String) :=
  let text := String.ofList (body.toList.dropWhile isBlank)
  if text.toList.head? == some '[' then JsonText.readStringAs (Reading.list pinReading) text
  else (Node.filledLines text).mapM (JsonText.readStringAs pinReading)

/-!
# Calls
-/

def pin (c : Caller W) (id : String) : Call W Unit := do
  let _ ← c.send "POST" ("pins/" ++ id) [] .none

/-- Unpinning what is not pinned or not known is a success. -/
def unpin (c : Caller W) (id : String) : Call W Unit := do
  try
    let _ ← c.send "DELETE" ("pins/" ++ id) [] .none
  catch error =>
    if error.isNotFound || error.isNotPinned then pure () else throw error

def pins (c : Caller W) : Call W (List String) := do
  let response ← c.send "GET" "pins" [] .none
  match parsePins response.text with
  | .ok ids => pure ids
  | .error _ => throw (.deserialization "GET /pins" withheld)

/-!
# Pin targets
-/

def name (c : Caller W) : String :=
  "ipfs cluster [" ++ c.address ++ "]"

def target (c : Caller W) : PinTarget W where
  name := name c
  pin id := (pin c id).action
  unpin id := (unpin c id).action
  tracked := (pins c).action

/-- The cluster as a pin target, if it is there. -/
def connect (c : Caller W) : Action W (PinTarget W) := do
  let _ ← (c.send "GET" "id" [] .none).connecting (name c)
  pure (target c)

end Cluster
end Ipfs
end ContentGateway
