import ContentGateway.Failure
import ContentGateway.Http.Message
import ContentGateway.Text.Pieces

/-!
# Failures of the search engine

What can go wrong in a call to the search engine, and which failure of the gateway
it amounts to.
-/

namespace ContentGateway
namespace Elastic

inductive ConfigError where
  | invalidUrl (name reason : String)
  | invalidValue (name value : String)
  deriving DecidableEq, Repr

def ConfigError.display : ConfigError -> String
  | .invalidUrl name reason => "invalid URL for " ++ name ++ ": " ++ reason
  | .invalidValue name value => "invalid value for " ++ name ++ ": " ++ value

inductive Error where
  | http (endpoint : String) (why : Http.Breakdown)
  /-- The engine answered with a status that is no success. -/
  | api (endpoint : String) (status : Nat) (body : String)
  | deserialization (endpoint reason : String)
  | config (why : ConfigError)
  deriving DecidableEq, Repr

namespace Error

def display : Error -> String
  | .http endpoint _ => "HTTP error calling " ++ endpoint ++ ": " ++ withheld
  | .api endpoint status body =>
      "Elasticsearch " ++ endpoint ++ " returned " ++ toString status ++ ": " ++ body
  | .deserialization endpoint reason =>
      "failed to deserialize response from " ++ endpoint ++ ": " ++ reason
  | .config why => "configuration error: " ++ why.display

/-- The status of an answer that is no success. -/
def status? : Error -> Option Nat
  | .api _ status _ => some status
  | _ => none

/-- The index that was addressed does not exist. -/
def isIndexNotFound : Error -> Bool
  | .api _ status body => status == 404 && containsText body "index_not_found_exception"
  | _ => false

/-- An index was created by somebody else in the meantime. -/
def isAlreadyExists : Error -> Bool
  | .api _ status body => status == 400 && containsText body "resource_already_exists_exception"
  | _ => false

/-- The failure of the gateway that an error amounts to. -/
def failure (e : Error) : Failure :=
  match e with
  | .http endpoint .timeout => .timeout (endpoint ++ " timed out")
  | .http endpoint .connect => .connection endpoint withheld
  | .http endpoint _ =>
      .technical ("error calling Elasticsearch " ++ endpoint) (some e.display)
  | .api endpoint status _ =>
      if status = 404 then .notFound e.display
      else .technical ("error calling Elasticsearch " ++ endpoint) (some e.display)
  | .deserialization endpoint _ =>
      .technical ("error calling Elasticsearch " ++ endpoint) (some e.display)
  | .config _ => .technical "Elasticsearch configuration error" (some e.display)

end Error
end Elastic
end ContentGateway
