import ContentGateway.Failure
import ContentGateway.Http.Message
import ContentGateway.Text.LowerCase
import ContentGateway.Text.Pieces

/-!
# Failures of nodes, clusters and pinning services

What can go wrong in a call to a node, a cluster or a pinning service, and which
failure of the gateway it amounts to.
-/

namespace ContentGateway
namespace Ipfs

inductive ConfigError where
  | invalidUrl (name reason : String)
  | invalidMultiaddress (address reason : String)
  | invalidNumber (name value : String)
  | invalidHeader (name : String)
  deriving DecidableEq, Repr

def ConfigError.display : ConfigError -> String
  | .invalidUrl name reason => "invalid URL for " ++ name ++ ": " ++ reason
  | .invalidMultiaddress address reason => "invalid multiaddress " ++ address ++ ": " ++ reason
  | .invalidNumber name value => "invalid number for " ++ name ++ ": " ++ value
  | .invalidHeader name => "invalid header value for " ++ name

inductive Error where
  | http (endpoint : String) (why : Http.Breakdown)
  /-- The service answered with a status that is no success. -/
  | api (endpoint : String) (status : Nat) (message : String)
  | deserialization (endpoint reason : String)
  /-- The content to upload could not be read. -/
  | io (endpoint reason : String)
  | config (why : ConfigError)
  deriving DecidableEq, Repr

namespace Error

def display : Error -> String
  | .http endpoint _ => "HTTP error calling " ++ endpoint ++ ": " ++ withheld
  | .api endpoint status message => endpoint ++ " returned " ++ toString status ++ ": " ++ message
  | .deserialization endpoint reason =>
      "failed to deserialize response from " ++ endpoint ++ ": " ++ reason
  | .io endpoint reason => "failed to read content for " ++ endpoint ++ ": " ++ reason
  | .config why => "configuration error: " ++ why.display

/-- The message of a service contains a part, whatever the case of its letters. -/
def reports (message part : String) : Bool :=
  containsText (lowerCase message) part

/-- The service does not know the content or the pin. -/
def isNotFound : Error -> Bool
  | .api _ status message => status == 404 || reports message "not found" || reports message "no link named"
  | _ => false

/-- The service reports that the content is not pinned. -/
def isNotPinned : Error -> Bool
  | .api _ _ message => reports message "not pinned"
  | _ => false

/-- The failure of the gateway that an error amounts to. -/
def failure (e : Error) : Failure :=
  let technical (endpoint : String) : Failure :=
    .technical ("error calling " ++ endpoint) (some e.display)
  match e with
  | .http endpoint .timeout => .timeout (endpoint ++ " timed out")
  | .http endpoint .connect => .connection endpoint withheld
  | .http endpoint _ => technical endpoint
  | .api endpoint _ _ => if e.isNotFound then .notFound e.display else technical endpoint
  | .deserialization endpoint _ => technical endpoint
  | .io endpoint _ => technical endpoint
  | .config _ => .technical "IPFS configuration error" (some e.display)

end Error
end Ipfs
end ContentGateway
