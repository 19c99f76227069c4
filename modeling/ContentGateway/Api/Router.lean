import ContentGateway.Api.Cors
import ContentGateway.Api.Parameters
import ContentGateway.Api.Route
import ContentGateway.Api.Upload
import ContentGateway.Service

/-!
# The HTTP interface

How requests are answered: a route is found, its operation reads what it needs from
the path, then from the query, then from the body, and the gateway does the rest.
-/

namespace ContentGateway
namespace Api

/-- How the interface is set up. -/
structure Setup where
  /-- The origins whose pages may call; all if there is none. -/
  origins : List String
  /-- The length of the longest body. -/
  maxBody : Nat

/-- The length of the longest body unless it is set. -/
def Setup.standardMaxBody : Nat := 100 * 1048576

abbrev Handling (W : Type) (α : Type) := ExceptT Refusal (StateM W) α

variable {W : Type}

/-- A call whose failure is told to the client as an error of the interface. -/
def ofAction (call : Action W α) : Handling W α :=
  fun w => let (answer, w) := call.run w; (answer.mapError Refusal.ofFailure, w)

/-- What has to be read from a request first. -/
def reading (value : Except Refusal α) : Handling W α :=
  fun w => (value, w)

/-- Answers with the JSON form of what a call answers. -/
def answering (toJson : α -> Json) (call : Action W α) : Handling W Response := do
  let answer ← ofAction call
  pure (.ofJson 200 (toJson answer))

/-!
# Operations
-/

/-- The storage decides whether the gateway is ready. -/
def readiness (b : Backends W) : Handling W Response := do
  let health : Health ← (b.storage.check : StateM W Health)
  if health.healthy then pure (.ofText 200 "ready")
  else pure (.ofText 503 (health.message.getD "storage unavailable"))

def createIndex (b : Backends W) (s : Setup) (r : Request) (segment : String) :
    Handling W Response := do
  let index ← reading (pathText segment)
  let body ← reading (wholeBody s.maxBody r)
  let configuration ← reading ((optionalBody Reading.json body).mapError .error)
  answering Acknowledgement.toJson (Service.createIndex b index configuration)

def index (b : Backends W) (request : IndexRequest) : Handling W Response :=
  answering IndexResponse.toJson (Service.indexAndReplicate b request)

def indexReference (b : Backends W) (s : Setup) (r : Request) : Handling W Response := do
  let d ← reading (jsonBody s.maxBody Description.referenceReading r)
  index b (.reference d.header d.content)

def indexText (b : Backends W) (s : Setup) (r : Request) : Handling W Response := do
  let d ← reading (jsonBody s.maxBody Description.textReading r)
  index b (.text d.header d.content)

def indexFile (b : Backends W) (s : Setup) (r : Request) : Handling W Response := do
  let request ← reading (formRequest s.maxBody r)
  index b request

/-- The type of content as a header; one that no header may carry says nothing. -/
def contentTypeHeader (metadata : Metadata) : String :=
  (metadata.contentType.filter Http.isHeaderText).getD "application/octet-stream"

/-- Content itself, with the type that is recorded for it. -/
def fetch (b : Backends W) (r : Request) (segment : String) : Handling W Response := do
  let contentId ← reading (pathText segment)
  let index ← reading (indexParameter r)
  let found ← ofAction (Service.get b ⟨index, none, some contentId, true⟩)
  pure (.ofContent 200 (contentTypeHeader found.hit.metadata) (found.hit.payload.getD []))

def search (b : Backends W) (s : Setup) (r : Request) : Handling W Response := do
  let parameters ← reading (SearchParameters.read r)
  let body ← reading (wholeBody s.maxBody r)
  let query ← reading ((optionalBody Query.reading body).mapError .error)
  let page ← reading (parameters.pageRequest.mapError Refusal.ofFailure)
  answering SearchResponse.toJson
    (Service.search b ⟨parameters.index, query.getD .empty, some page, false⟩)

def deleteById (b : Backends W) (r : Request) (segment : String) : Handling W Response := do
  let id ← reading (pathText segment)
  let index ← reading (requiredIndex r)
  answering Acknowledgement.toJson (Service.deindex b index id)

/-- Removes the document that a look-up of the content finds. -/
def deleteByContent (b : Backends W) (r : Request) (segment : String) : Handling W Response := do
  let contentId ← reading (pathText segment)
  let index ← reading (requiredIndex r)
  let found ← ofAction (Service.get b ⟨some index, none, some contentId, false⟩)
  answering Acknowledgement.toJson (Service.deindex b index found.hit.metadata.id)

def handle (b : Backends W) (s : Setup) (r : Request) : Route -> Handling W Response
  | .liveness => pure (.ofText 200 "ok")
  | .readiness => readiness b
  | .listIndexes => answering IndexList.toJson (Service.indexNames b)
  | .createIndex segment => createIndex b s r segment
  | .indexReference => indexReference b s r
  | .indexFile => indexFile b s r
  | .indexText => indexText b s r
  | .fetch segment => fetch b r segment
  | .search => search b s r
  | .deleteById segment => deleteById b r segment
  | .deleteByContent segment => deleteByContent b r segment

/-!
# Requests
-/

/-- The response of an operation, whether it answers or refuses. -/
def respond (b : Backends W) (s : Setup) (r : Request) (route : Route) : StateM W Response := do
  let response ← match ← (handle b s r route).run with
    | .ok response => pure response
    | .error refusal => pure refusal.response
  pure (if r.method == "HEAD" then response.withoutBody else response)

/-- The response to a request that no operation takes up. -/
def decline (r : Request) (status : Nat) : Response :=
  if Cors.isInquiry r then Cors.answer else .empty status

/-- Answers a request. -/
def serve (b : Backends W) (s : Setup) (r : Request) : StateM W Response := do
  let response ← match Route.ofSegments? r.segments with
    | none => pure (decline r 404)
    | some route =>
        if route.method.admits r.method then respond b s r route
        else pure ((decline r 405).withHeader "allow" route.method.allowed)
  pure (Cors.permit s.origins r response)

end Api
end ContentGateway
