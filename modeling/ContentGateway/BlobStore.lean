import ContentGateway.Content
import ContentGateway.Failure
import ContentGateway.Stream
import ContentGateway.Table

/-!
# The blob store

Content held in memory under its identity, and the identities pinned here.  Stored
content is never changed or removed.
-/

namespace ContentGateway

structure BlobStore where
  blobs : Table Bytes
  pinned : Table Unit

namespace BlobStore

def empty : BlobStore :=
  ⟨[], []⟩

def unknown (id : String) : Failure :=
  .notFound ("content " ++ id ++ " not found")

/-- Stores content under its identity; content that is there already stays as it is. -/
def write (s : BlobStore) (content : Bytes) : String × BlobStore :=
  let id := contentId content
  if Table.contains s.blobs id then (id, s)
  else (id, { s with blobs := Table.insert s.blobs id content })

/-- Stores the whole content of a stream, or nothing if a read fails. -/
def writeStream (s : BlobStore) (content : Stream) : Except Failure (String × BlobStore) :=
  match content.content? with
  | some bytes => .ok (s.write bytes)
  | none => .error (.technical "Error whilst reading the content stream" (some Stream.brokenText))

def read (s : BlobStore) (id : String) : Except Failure Bytes :=
  match Table.get? s.blobs id with
  | some content => .ok content
  | none => .error (unknown id)

/-- Pins content that is stored here. -/
def pin (s : BlobStore) (id : String) : Except Failure BlobStore :=
  if Table.contains s.blobs id then .ok { s with pinned := Table.insert s.pinned id () }
  else .error (unknown id)

def unpin (s : BlobStore) (id : String) : BlobStore :=
  { s with pinned := Table.erase s.pinned id }

/-- The pinned identities in order. -/
def listPinned (s : BlobStore) : List String :=
  Table.keys s.pinned

end BlobStore
end ContentGateway
