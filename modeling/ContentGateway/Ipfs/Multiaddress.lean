import ContentGateway.Environment
import ContentGateway.Ipfs.Error
import ContentGateway.Url.Reading

/-!
# Multiaddresses

The address of a node as components between slashes: a protocol, for some protocols
its value, then the next protocol.  A host and a port are required; of several, the
last one counts.
-/

namespace ContentGateway
namespace Ipfs
namespace Multiaddress

/-- What is wrong with an address. -/
inductive Fault where
  | missingHost
  | missingPort
  | invalidPort
  | unsupported (protocol : String)
  deriving DecidableEq, Repr

def Fault.reason : Fault -> String
  | .missingHost => "missing host"
  | .missingPort => "missing tcp port"
  | .invalidPort => "invalid tcp port"
  | .unsupported protocol => "unsupported protocol '" ++ protocol ++ "'"

/-- What has been read of an address so far. -/
structure Draft where
  host : Option String
  port : Option Nat
  secure : Bool
  deriving DecidableEq, Repr

/-- The protocols whose value is a host as it stands. -/
def hostProtocols : List String :=
  ["ip4", "dns", "dns4", "dns6"]

def scan (d : Draft) : List String -> Except Fault Draft
  | [] => .ok d
  | protocol :: rest =>
      if protocol == "ip6" || hostProtocols.contains protocol then
        match rest with
        | [] => .ok { d with host := none }
        | value :: rest =>
            let host := if protocol == "ip6" then "[" ++ value ++ "]" else value
            scan { d with host := some host } rest
      else if protocol == "tcp" then
        match rest with
        | [] => .error .missingPort
        | value :: rest =>
            match Decimal.natural? Environment.largestPort value with
            | none => .error .invalidPort
            | some port => scan { d with port := some port } rest
      else if protocol == "https" || protocol == "tls" then scan { d with secure := true } rest
      else if protocol == "http" then scan d rest
      else .error (.unsupported protocol)

/-- The components of an address: the parts between slashes that are not empty. -/
def components (text : String) : List String :=
  ((splitBy (· == '/') (trimBy isBlank text.toList)).filter fun part => !part.isEmpty).map
    String.ofList

/-- The text of the URL that an address stands for. -/
def urlText (text : String) : Except Fault String := do
  let draft ← scan ⟨none, none, false⟩ (components text)
  match draft.host, draft.port with
  | none, _ => throw .missingHost
  | some _, none => throw .missingPort
  | some host, some port =>
      let scheme := if draft.secure then "https" else "http"
      pure (scheme ++ "://" ++ host ++ ":" ++ toString port)

end Multiaddress

/-- The URL that a multiaddress stands for. -/
def urlOfMultiaddress (text : String) : Except ConfigError Url :=
  match Multiaddress.urlText text with
  | .error fault => .error (.invalidMultiaddress text fault.reason)
  | .ok url =>
      match Url.parse? url with
      | some url => .ok url
      | none => .error (.invalidUrl text withheld)

end Ipfs
end ContentGateway
