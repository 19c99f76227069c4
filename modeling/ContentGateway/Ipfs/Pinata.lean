import ContentGateway.Backend
import ContentGateway.Http.Header
import ContentGateway.Ipfs.Caller
import ContentGateway.Ipfs.Settings

/-!
# The pinning service

A service that pins content for the holders of an account.  Every request carries the
key and the secret of the account.
-/

namespace ContentGateway
namespace Ipfs
namespace Pinata

variable {W : Type}

/-- The headers of an account. -/
def headers (account : PinataAccount) : Except Error Http.Headers :=
  if !Http.isHeaderText account.apiKey then .error (.config (.invalidHeader "PINATA_API_KEY"))
  else if !Http.isHeaderText account.secret then
    .error (.config (.invalidHeader "PINATA_SECRET_API_KEY"))
  else .ok [("pinata_api_key", account.apiKey), ("pinata_secret_api_key", account.secret)]

def callerOf (network : Http.Network W) (limit : Duration) (account : PinataAccount) :
    Except Error (Caller W) := do
  let headers ← headers account
  pure ⟨network, account.url, limit, headers⟩

/-!
# Calls
-/

/-- Asks for content to be pinned; the hosts are addresses from which it can be fetched. -/
def pinBody (hosts : List String) (id : String) : Json :=
  let hostNodes := if hosts.isEmpty then [] else [("host_nodes", Json.strings hosts)]
  .ofMembers ([("hashToPin", .string id), ("pinataMetadata", .ofMembers [("name", .string id)])]
    ++ hostNodes)

def unpinBody (id : String) : Json :=
  .ofMembers [("ipfs_pin_hash", .string id)]

def pin (c : Caller W) (hosts : List String) (id : String) : Call W Unit := do
  let _ ← c.send "POST" "pinning/pinHashToIPFS" [] (.json (pinBody hosts id))

def unpin (c : Caller W) (id : String) : Call W Unit := do
  let _ ← c.send "POST" "pinning/removePinFromIPFS" [] (.json (unpinBody id))

def rowReading : Reading String :=
  Reading.record [.required "ipfs_pin_hash" Reading.string fun s _ => s] ""

def pinsReading : Reading (List String) :=
  Reading.record [.defaulted "rows" (Reading.list rowReading) fun rows _ => rows] []

def pins (c : Caller W) : Call W (List String) := do
  let response ← c.send "GET" "data/pinList" [("status", "pinned"), ("pageLimit", "1000")] .none
  Caller.decode "GET /data/pinList" pinsReading response

/-!
# Pin targets
-/

def name : String := "pinata"

def target (c : Caller W) (hosts : List String) : PinTarget W where
  name := name
  pin id := (pin c hosts id).action
  unpin id := (unpin c id).action
  tracked := (pins c).action

/-- The service as a pin target, if it is there and accepts the account. -/
def connect (network : Http.Network W) (limit : Duration) (account : PinataAccount) :
    Action W (PinTarget W) := do
  let c ← MonadExcept.ofExcept ((callerOf network limit account).mapError Error.failure)
  let _ ← (c.send "GET" "data/testAuthentication" [] .none).connecting name
  pure (target c [])

end Pinata
end Ipfs
end ContentGateway
