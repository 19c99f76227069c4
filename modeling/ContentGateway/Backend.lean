import ContentGateway.Request

/-!
# Backends

What the gateway asks of the systems it works with: a storage for content, an
indexer for documents, and pin targets that keep further copies.  Their state is a
world `W`; a call is an action on it that answers or fails, and keeps its effects
when it fails.
-/

namespace ContentGateway

/-- A call that changes a world and answers or fails. -/
abbrev Action (W : Type) (α : Type) := ExceptT Failure (StateM W) α

/-- The answer of a call whose failure does not stop the caller. -/
def Action.outcome (call : Action W α) : StateM W (Except Failure α) :=
  call

/-- What a probe of a backend found. -/
structure Health where
  healthy : Bool
  message : Option String
  cause : Option String
  deriving DecidableEq, Repr

namespace Health

def good : Health :=
  ⟨true, none, none⟩

def bad (message cause : String) : Health :=
  ⟨false, some message, some cause⟩

def toJson (h : Health) : Json :=
  .ofMembers ([("healthy", .bool h.healthy)] ++ Json.optional "message" h.message
    ++ Json.optional "cause" h.cause)

end Health

/-- A place that keeps content available.  Pinning twice or unpinning what is not pinned is no failure. -/
structure PinTarget (W : Type) where
  name : String
  pin : String -> Action W Unit
  unpin : String -> Action W Unit
  /-- Everything that is pinned there. -/
  tracked : Action W (List String)

structure Storage (W : Type) where
  name : String
  write : Bytes -> Action W String
  writeStream : Stream -> Action W String
  read : String -> Action W Bytes
  /-- Several reads that are under way at the same time. -/
  readAll : List String -> StateM W (List (Except Failure Bytes))
  pin : String -> Action W Unit
  unpin : String -> Action W Unit
  pinned : Action W (List String)
  /-- The places that receive a pin for all content written. -/
  replicas : List (PinTarget W)
  check : StateM W Health

structure Indexer (W : Type) where
  name : String
  createIndex : String -> Option Json -> Action W Unit
  indexNames : Action W (List String)
  /-- Writes a document into an index, under an id or a new one, with its content, type and fields. -/
  put : String -> Option String -> Option String -> Option String -> Fields -> Action W String
  remove : String -> String -> Action W Unit
  fetch : String -> String -> Action W Metadata
  setField : String -> String -> String -> Json -> Action W Unit
  search : Option String -> Query -> PageRequest -> Action W (Page Metadata)

/-- The backends of a gateway. -/
structure Backends (W : Type) where
  storage : Storage W
  indexer : Indexer W

/-!
# Backends of a larger world

Backends of a world work in every world that contains it.
-/

section Lift

variable {A B : Type} (within : {α : Type} -> StateM A α -> StateM B α)

/-- A call of the larger world. -/
def Action.lift (call : Action A α) : Action B α :=
  within call.outcome

def PinTarget.lift (t : PinTarget A) : PinTarget B where
  name := t.name
  pin id := Action.lift within (t.pin id)
  unpin id := Action.lift within (t.unpin id)
  tracked := Action.lift within t.tracked

def Storage.lift (s : Storage A) : Storage B where
  name := s.name
  write content := Action.lift within (s.write content)
  writeStream content := Action.lift within (s.writeStream content)
  read id := Action.lift within (s.read id)
  readAll ids := within (s.readAll ids)
  pin id := Action.lift within (s.pin id)
  unpin id := Action.lift within (s.unpin id)
  pinned := Action.lift within s.pinned
  replicas := s.replicas.map (PinTarget.lift within)
  check := within s.check

def Indexer.lift (i : Indexer A) : Indexer B where
  name := i.name
  createIndex index configuration := Action.lift within (i.createIndex index configuration)
  indexNames := Action.lift within i.indexNames
  put index id contentId contentType fields :=
    Action.lift within (i.put index id contentId contentType fields)
  remove index id := Action.lift within (i.remove index id)
  fetch index id := Action.lift within (i.fetch index id)
  setField index id key value := Action.lift within (i.setField index id key value)
  search index query request := Action.lift within (i.search index query request)

def Backends.lift (b : Backends A) : Backends B :=
  ⟨Storage.lift within b.storage, Indexer.lift within b.indexer⟩

end Lift

/-!
# All targets
-/

/-- Pins content on every target, also after one has failed; tells whether all succeeded. -/
def pinEverywhere : List (PinTarget W) -> String -> StateM W Bool
  | [], _ => pure true
  | target :: rest, id => do
      let result ← (target.pin id).outcome
      let others ← pinEverywhere rest id
      pure (result.isOk && others)

/-- Unpins content from every target, also after one has failed; the first failure is kept. -/
def unpinEverywhere : List (PinTarget W) -> String -> StateM W (Option Failure)
  | [], _ => pure none
  | target :: rest, id => do
      let result ← (target.unpin id).outcome
      let later ← unpinEverywhere rest id
      match result with
      | .error failure => pure (some failure)
      | .ok _ => pure later

end ContentGateway
