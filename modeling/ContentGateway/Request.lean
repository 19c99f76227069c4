import ContentGateway.Document
import ContentGateway.Page
import ContentGateway.Query
import ContentGateway.Stream

/-!
# Requests and responses

The inputs and outputs of the operations of the gateway.
-/

namespace ContentGateway

/-- The outcome that every response carries. -/
inductive Status where
  | success
  | error
  deriving DecidableEq, Repr

namespace Status

def token : Status -> String
  | .success => "SUCCESS"
  | .error => "ERROR"

def toJson (s : Status) : Json :=
  .string s.token

def reading : Reading Status :=
  Reading.tag Reading.isNull [("SUCCESS", .success), ("ERROR", .error)]

end Status

/-!
# Indexing
-/

/-- What an indexing request says about the document to write. -/
structure Header where
  index : String
  id : Option String
  contentType : Option String
  fields : Fields

def Header.of (index : String) : Header :=
  ⟨index, none, none, []⟩

/-- Content to store, all at once or piece by piece. -/
inductive Source where
  | bytes (content : Bytes)
  | stream (content : Stream)

inductive IndexRequest where
  /-- Store the content, then index it. -/
  | store (header : Header) (content : Source)
  /-- Index content that is stored already. -/
  | reference (header : Header) (contentId : String)
  /-- Store a text, then index it. -/
  | text (header : Header) (content : String)
  /-- Store the content without indexing it. -/
  | storeOnly (content : Source)

namespace IndexRequest

def header? : IndexRequest -> Option Header
  | .store h _ | .reference h _ | .text h _ => some h
  | .storeOnly _ => none

def mapHeader (f : Header -> Header) : IndexRequest -> IndexRequest
  | .store h c => .store (f h) c
  | .reference h c => .reference (f h) c
  | .text h c => .text (f h) c
  | .storeOnly c => .storeOnly c

def withId (r : IndexRequest) (id : String) : IndexRequest :=
  r.mapHeader fun h => { h with id := some id }

def withContentType (r : IndexRequest) (contentType : String) : IndexRequest :=
  r.mapHeader fun h => { h with contentType := some contentType }

def withField (r : IndexRequest) (key : String) (value : Json) : IndexRequest :=
  r.mapHeader fun h => { h with fields := Table.insert h.fields key value }

/-- Adds fields; a field that is there already takes the new value. -/
def withFields (r : IndexRequest) (fields : Fields) : IndexRequest :=
  r.mapHeader fun h => { h with fields := Table.extend h.fields fields }

end IndexRequest

/-- What became of an indexing request. -/
structure IndexResponse where
  status : Status
  index : Option String
  id : Option String
  contentId : String
  contentType : Option String
  fields : Fields

namespace IndexResponse

def toJson (r : IndexResponse) : Json :=
  .ofMembers ([("status", r.status.toJson)] ++ Json.optional "index" r.index
    ++ Json.optional "id" r.id ++ [("content_id", .string r.contentId)]
    ++ Json.optional "content_type" r.contentType ++ [("index_fields", .object r.fields)])

def slots : List (Slot IndexResponse) := [
  .required "status" Status.reading fun s r => { r with status := s },
  .defaulted "index" (Reading.option Reading.string) fun s r => { r with index := s },
  .defaulted "id" (Reading.option Reading.string) fun s r => { r with id := s },
  .required "content_id" Reading.string fun s r => { r with contentId := s },
  .defaulted "content_type" (Reading.option Reading.string) fun s r => { r with contentType := s },
  .defaulted "index_fields" Reading.fields fun fs r => { r with fields := fs }]

def reading : Reading IndexResponse :=
  Reading.record slots ⟨.success, none, none, "", none, []⟩

end IndexResponse

/-!
# Responses that carry an outcome alone
-/

/-- The response of an operation that answers with its outcome alone. -/
structure Acknowledgement where
  status : Status
  deriving DecidableEq, Repr

namespace Acknowledgement

def ok : Acknowledgement := ⟨.success⟩

def toJson (a : Acknowledgement) : Json :=
  .ofMembers [("status", a.status.toJson)]

def reading : Reading Acknowledgement :=
  Reading.record [.required "status" Status.reading fun s _ => ⟨s⟩] ok

end Acknowledgement

/-- The names of all indices. -/
structure IndexList where
  status : Status
  indexes : List String
  deriving DecidableEq, Repr

namespace IndexList

def toJson (l : IndexList) : Json :=
  .ofMembers [("status", l.status.toJson), ("indexes", Json.strings l.indexes)]

def reading : Reading IndexList :=
  Reading.record [
    .required "status" Status.reading fun s l => { l with status := s },
    .required "indexes" (Reading.list Reading.string) fun names l => { l with indexes := names }]
    ⟨.success, []⟩

end IndexList

/-!
# Looking up and searching
-/

/-- Asks for a document by its id, or else by the content it describes. -/
structure GetRequest where
  index : Option String
  id : Option String
  contentId : Option String
  loadFile : Bool

/-- A document with its content, if that was asked for. -/
structure Hit where
  metadata : Metadata
  payload : Option Bytes

def Hit.toJson (h : Hit) : Json :=
  h.metadata.toJson

/-- The response to a look-up. -/
structure GetResponse where
  status : Status
  hit : Hit

def GetResponse.toJson (r : GetResponse) : Json :=
  .ofMembers [("status", r.status.toJson), ("metadata", r.hit.metadata.toJson)]

/-- Asks for a page of the documents that satisfy a query, in one index or in all of them. -/
structure SearchRequest where
  index : Option String
  query : Query
  page : Option PageRequest
  loadFile : Bool

structure SearchResponse where
  status : Status
  page : Page Hit

def SearchResponse.toJson (r : SearchResponse) : Json :=
  .ofMembers (("status", r.status.toJson) :: r.page.members Hit.toJson)

/-- Sets one field of a document. -/
structure UpdateRequest where
  index : String
  id : String
  key : String
  value : Json

end ContentGateway
