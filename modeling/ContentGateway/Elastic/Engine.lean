import ContentGateway.Backend
import ContentGateway.Elastic.Clause
import ContentGateway.Elastic.Fields
import ContentGateway.Elastic.Settings
import ContentGateway.Http.Network
import ContentGateway.Json.Text

/-!
# The search engine

Documents kept by a search engine.  An index, a document and a search are addressed by
path segments below the address of the engine; index names are in lower case.
-/

namespace ContentGateway
namespace Elastic

abbrev Call (W : Type) (α : Type) := ExceptT Error (StateM W) α

/-- A search engine that can be asked. -/
structure Engine (W : Type) where
  network : Http.Network W
  settings : Settings
  /-- An id for a document that comes without one. -/
  freshId : StateM W String

/-- The failure of the gateway that a failed call amounts to. -/
def Call.action (call : Call W α) : Action W α :=
  fun w => let (answer, w) := call.run w; (answer.mapError Error.failure, w)

namespace Engine

variable {W : Type}

/-- The address of what path segments name. -/
def url (e : Engine W) (segments : List String) : Except Error Url :=
  match e.settings.url.extend? segments with
  | some url => .ok url
  | none => .error (.config (.invalidUrl e.settings.url.display "cannot be a base"))

/-- Asks the engine; every answer but a success is an error. -/
def send (e : Engine W) (method : String) (segments : List String)
    (parameters : List (String × String)) (body : Http.Body) : Call W Http.Response := do
  let endpoint := method ++ " /" ++ String.intercalate "/" segments
  let url ← MonadExcept.ofExcept (e.url segments)
  let request : Http.Request := ⟨method, url.withParameters parameters, [], body⟩
  match ← e.network.call e.settings.limit (some request) with
  | .error why => throw (.http endpoint why)
  | .ok response =>
      if response.isSuccess then pure response
      else throw (.api endpoint response.status response.text)

/-- Reads the body of an answer. -/
def decode (endpoint : String) (read : Reading α) (r : Http.Response) : Call W α :=
  match JsonText.readBytesAs read r.body with
  | .ok value => pure value
  | .error _ => throw (.deserialization endpoint withheld)

/-- A call that finds nothing where the engine answers with status 404. -/
def orNone (call : Call W α) : Call W (Option α) := do
  try
    let answer ← call
    pure (some answer)
  catch error =>
    if error.status? = some 404 then pure none else throw error

/-!
# Answers
-/

/-- A document as the engine hands it out. -/
structure Source where
  index : String
  id : String
  found : Bool
  fields : Fields

def Source.slots : List (Slot Source) := [
  .required "_index" Reading.string fun s d => { d with index := s },
  .required "_id" Reading.string fun s d => { d with id := s },
  .defaulted "_source" Reading.fields fun fields d => { d with fields := fields }]

def Source.empty : Source :=
  ⟨"", "", false, []⟩

/-- A document that was asked for tells whether it was found. -/
def Source.reading : Reading Source :=
  let found : Slot Source := .defaulted "found" Reading.bool fun b d => { d with found := b }
  Reading.record (slots.take 2 ++ [found] ++ slots.drop 2) empty

def Source.metadata (d : Source) : Metadata :=
  .ofDocument d.index d.id d.fields

/-- A part of the hits and how many there are. -/
structure Hits where
  total : Json
  hits : List Source

def Hits.reading : Reading Hits :=
  Reading.record [
    .defaulted "total" Reading.json fun v h => { h with total := v },
    .defaulted "hits" (Reading.list (Reading.record Source.slots Source.empty))
      fun ds h => { h with hits := ds }] ⟨.null, []⟩

def searchReading : Reading Hits :=
  Reading.record [.required "hits" Hits.reading fun h _ => h] ⟨.null, []⟩

/-- A count of hits: a number, alone or in an object; anything else counts none. -/
def countOf : Json -> Nat
  | .number (.int n) => n.toNat
  | .object members =>
      match Table.get? members "value" with
      | some (.number (.int n)) => n.toNat
      | _ => 0
  | _ => 0

/-- What the engine says about itself. -/
def clusterReading : Reading String :=
  let version : Reading String :=
    Reading.record [.required "number" Reading.string fun s _ => s] ""
  Reading.record [
    .required "cluster_name" Reading.string fun s _ => s,
    .defaulted "version" (Reading.option version) fun _ s => s] ""

/-!
# Calls
-/

/-- Where documents are changed, searches see the change at once. -/
def refresh : List (String × String) :=
  [("refresh", "true")]

/-- An update that meets another one is tried again. -/
def updating : List (String × String) :=
  [("refresh", "true"), ("retry_on_conflict", "5")]

def hasIndex (e : Engine W) (index : String) : Call W Bool := do
  let answer ← orNone (e.send "HEAD" [index] [] .none)
  pure answer.isSome

/-- The document under an id, if there is one. -/
def fetch (e : Engine W) (index id : String) : Call W (Option Source) := do
  match ← orNone (e.send "GET" [index, "_doc", id] [] .none) with
  | none => pure none
  | some response =>
      let source ← decode ("GET /" ++ index ++ "/_doc/" ++ id) Source.reading response
      pure (if source.found then some source else none)

/-- The fields that are written: those that callers may write, then the reserved ones. -/
def written (e : Engine W) (contentId contentType : Option String) (fields : Fields) : Fields :=
  let free := freeFields fields
  let free := if e.settings.nullValues then replaceNulls free else free
  let reserve (document : Fields) (key : String) (value : Option Json) : Fields :=
    match value with
    | some v => Table.insert document key v
    | none => document
  let document := reserve free hashKey (contentId.map Json.string)
  let document := reserve document contentTypeKey (contentType.map Json.string)
  Table.insert document pinnedKey (.bool false)

/-- Sets one field to a value that is passed beside the script. -/
def fieldScript (key : String) (value : Json) : Json :=
  .ofMembers [("script", .ofMembers [
    ("source", .string "ctx._source[params.key] = params.value"),
    ("lang", .string "painless"),
    ("params", .ofMembers [("key", .string key), ("value", value)])])]

def noDocument (index id : String) : Failure :=
  .notFound ("Document not found [index: " ++ index ++ ", id: " ++ id ++ "]")

/-- The answer of a call on a document that may not exist. -/
def onDocument (index id : String) (call : Call W (Option α)) : Action W α := do
  match ← call.action with
  | some answer => pure answer
  | none => throw (noDocument index id)

def createIndex (e : Engine W) (index : String) (configuration : Option Json) : Call W Unit := do
  let index := lowerCase index
  if ← e.hasIndex index then pure ()
  else
    try
      let _ ← e.send "PUT" [index] [] (.json (configuration.getD defaultMapping))
    catch error =>
      if error.isAlreadyExists then pure () else throw error

/-- The names of all indexes but those that the engine keeps for itself. -/
def indexNames (e : Engine W) : Call W (List String) := do
  let response ← e.send "GET" ["_aliases"] [] .none
  let aliases ← decode "GET /_aliases" Reading.fields response
  pure ((Table.keys aliases).filter fun name => !name.startsWith ".")

/-- Writes a document; one that exists keeps the fields that are not written. -/
def put (e : Engine W) (index : String) (id contentId contentType : Option String)
    (fields : Fields) : Action W String := do
  let index := lowerCase index
  if !(← (e.hasIndex index).action) then throw (.noIndex index)
  let document := Json.object (e.written contentId contentType fields)
  let create (id : String) : Action W String := do
    let _ ← (e.send "PUT" [index, "_doc", id] refresh (.json document)).action
    pure id
  match id with
  | none =>
      let id ← e.freshId
      create id
  | some id =>
      match ← (e.fetch index id).action with
      | none => create id
      | some _ =>
          let body := Json.ofMembers [("doc", document)]
          let _ ← (e.send "POST" [index, "_update", id] updating (.json body)).action
          pure id

def remove (e : Engine W) (index id : String) : Action W Unit := do
  let index := lowerCase index
  let _ ← onDocument index id (orNone (e.send "DELETE" [index, "_doc", id] refresh .none))

def document (e : Engine W) (index id : String) : Action W Metadata := do
  let index := lowerCase index
  let source ← onDocument index id (e.fetch index id)
  pure source.metadata

def setField (e : Engine W) (index id key : String) (value : Json) : Action W Unit := do
  let index := lowerCase index
  let body := Http.Body.json (fieldScript key value)
  let _ ← onDocument index id (orNone (e.send "POST" [index, "_update", id] updating body))

def search (e : Engine W) (index : Option String) (query : Query) (request : PageRequest) :
    Action W (Page Metadata) := do
  let target := (index.map lowerCase).getD allIndices
  let body := Http.Body.json (searchBody query request)
  let answer : Except Error Http.Response ← (e.send "POST" [target, "_search"] [] body).run
  match answer with
  | .error error => throw (if error.isIndexNotFound then .noIndex target else error.failure)
  | .ok response =>
      let found ← (decode ("POST /" ++ target ++ "/_search") searchReading response).action
      pure (.ofTotal request (found.hits.map Source.metadata) (countOf found.total))

/-!
# The engine as a backend
-/

def indexer (e : Engine W) : Indexer W where
  name := "elasticsearch"
  createIndex index configuration := (e.createIndex index configuration).action
  indexNames := e.indexNames.action
  put := e.put
  remove := e.remove
  fetch := e.document
  setField := e.setField
  search := e.search

/-- How the engine is called in messages. -/
def title (e : Engine W) : String :=
  "elasticsearch [" ++ e.settings.url.display ++ "]"

/-- The engine as a backend, if it is there. -/
def connect (e : Engine W) : Action W (Indexer W) := do
  let answer : Except Error Http.Response ← (e.send "GET" [] [] .none).run
  match answer with
  | .error error => throw (.connection e.title error.display)
  | .ok response =>
      match JsonText.readBytesAs clusterReading response.body with
      | .ok _ => pure e.indexer
      | .error _ => throw (.connection e.title withheld)

end Engine
end Elastic
end ContentGateway
