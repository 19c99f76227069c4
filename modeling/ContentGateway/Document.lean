import ContentGateway.Json.Record

/-!
# Documents

A document is a table of fields in an index, under an id.  Three reserved fields
say which content it describes, of which type, and whether every replica has pinned
that content; a document's metadata shows the first two beside the free fields.
-/

namespace ContentGateway

/-- The reserved field that holds the identity of the content. -/
def hashKey : String := "__hash"

/-- The reserved field that holds the type of the content. -/
def contentTypeKey : String := "__content_type"

/-- The reserved field that is true once every replica has pinned the content. -/
def pinnedKey : String := "__pinned"

/-- The index name that addresses every index. -/
def allIndices : String := "_all"

/-- Fields that callers do not write themselves. -/
def isReservedKey (key : String) : Bool :=
  key == hashKey || key == contentTypeKey || key == pinnedKey

/-- The fields that callers may write. -/
def freeFields (fields : Fields) : Fields :=
  fields.filter fun e => !isReservedKey e.1

/-- What is known about a document. -/
structure Metadata where
  index : String
  id : String
  contentId : Option String
  contentType : Option String
  fields : Fields

namespace Metadata

/-- The metadata of the document that is stored under an id of an index. -/
def ofDocument (index id : String) (document : Fields) : Metadata where
  index := index
  id := id
  contentId := (Table.get? document hashKey).bind Json.asString?
  contentType := (Table.get? document contentTypeKey).bind Json.asString?
  fields := freeFields document

def members (m : Metadata) : List (String × Json) :=
  [("index", .string m.index), ("id", .string m.id), ("content_id", .ofOption m.contentId)]
    ++ Json.optional "content_type" m.contentType
    ++ [("index_fields", .object m.fields)]

def toJson (m : Metadata) : Json :=
  .ofMembers m.members

def slots : List (Slot Metadata) := [
  .required "index" Reading.string fun s m => { m with index := s },
  .required "id" Reading.string fun s m => { m with id := s },
  ⟨["content_id", "hash"], false, fun t m =>
    (Reading.option Reading.string t).map fun s => { m with contentId := s }⟩,
  .defaulted "content_type" (Reading.option Reading.string) fun s m => { m with contentType := s },
  .defaulted "index_fields" Reading.fields fun fs m => { m with fields := fs }]

def reading : Reading Metadata :=
  Reading.record slots ⟨"", "", none, none, []⟩

end Metadata
end ContentGateway
