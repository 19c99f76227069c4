import ContentGateway.Document
import ContentGateway.Page
import ContentGateway.Query.Evaluation
import ContentGateway.Sorting.Pivot
import ContentGateway.Text.Hex

/-!
# The catalog

The document index held in memory: indices by their names in lower case, documents
by their ids.  Every call either changes the catalog as its answer says or fails
and changes nothing.
-/

namespace ContentGateway

/-- An index: what it was created with, and its documents. -/
structure Shelf where
  configuration : Option Json
  documents : Table Fields

structure Catalog where
  shelves : Table Shelf
  /-- Ids up to this number may have been given out. -/
  issued : Nat

namespace Catalog

def empty : Catalog :=
  ⟨[], 0⟩

/-- The document under an id of an index. -/
def document? (c : Catalog) (index id : String) : Option Fields :=
  (Table.get? c.shelves index).bind fun s => Table.get? s.documents id

/-- The configuration that an index was created with. -/
def configuration (c : Catalog) (index : String) : Option Json :=
  (Table.get? c.shelves (lowerCase index)).bind fun s => s.configuration

/-- The number of documents in an index. -/
def count (c : Catalog) (index : String) : Nat :=
  ((Table.get? c.shelves (lowerCase index)).map fun s => s.documents.length).getD 0

/-- Replaces the documents of an index that exists. -/
def withDocuments (c : Catalog) (index : String) (change : Table Fields -> Table Fields) :
    Catalog :=
  match Table.get? c.shelves index with
  | none => c
  | some s =>
      let changed : Shelf := { s with documents := change s.documents }
      { c with shelves := Table.insert c.shelves index changed }

/-- Puts a document in the place of the one under the same id. -/
def store (c : Catalog) (index id : String) (document : Fields) : Catalog :=
  c.withDocuments index fun documents => Table.insert documents id document

def missing (index id : String) : Failure :=
  .notFound ("Document not found [index: " ++ index ++ ", id: " ++ id ++ "]")

/-!
# Administration
-/

/-- Creates an index; one that exists keeps its configuration and its documents. -/
def createIndex (c : Catalog) (index : String) (configuration : Option Json) : Catalog :=
  let name := lowerCase index
  if Table.contains c.shelves name then c
  else { c with shelves := Table.insert c.shelves name ⟨configuration, []⟩ }

/-- The names of the indices in order. -/
def indexNames (c : Catalog) : List String :=
  Table.keys c.shelves

/-!
# Documents
-/

/-- The fields that a write leaves in a document: the free ones, the content, and no pin yet. -/
def writtenFields (contentId contentType : Option String) (fields : Fields) : Fields :=
  let written := freeFields fields
  let written := match contentId with
    | some id => Table.insert written hashKey (.string id)
    | none => written
  let written := match contentType with
    | some type => Table.insert written contentTypeKey (.string type)
    | none => written
  Table.insert written pinnedKey (.bool false)

/-- A generated id: thirty-two hexadecimal digits. -/
def generatedId (n : Nat) : String :=
  let digits := Nat.toDigits 16 n
  String.ofList (List.replicate (32 - digits.length) '0' ++ digits)

/-- Is a text one of the ids generated up to a number? -/
def isGeneratedId (issued : Nat) (text : List Char) : Bool :=
  match inBase? 16 text with
  | some n => 0 < n && n ≤ issued && generatedId n == String.ofList text
  | none => false

/-- The first number after `n` whose id is free in a table, looked for in `attempts` steps. -/
def nextFree (documents : Table Fields) : Nat -> Nat -> Nat
  | 0, n => n + 1
  | attempts + 1, n =>
      if Table.contains documents (generatedId (n + 1)) then nextFree documents attempts (n + 1)
      else n + 1

/--
Writes a document.  Under an id that is taken the fields are merged into the document
there; without an id a new one is generated.
-/
def put (c : Catalog) (index : String) (id contentId contentType : Option String)
    (fields : Fields) : Except Failure (String × Catalog) :=
  let name := lowerCase index
  match Table.get? c.shelves name with
  | none => .error (.noIndex name)
  | some shelf =>
      let written := writtenFields contentId contentType fields
      match id with
      | some id =>
          let old := (Table.get? shelf.documents id).getD []
          .ok (id, c.store name id (Table.extend old written))
      | none =>
          let number := nextFree shelf.documents shelf.documents.length c.issued
          let id := generatedId number
          .ok (id, { c.store name id written with issued := number })

/-- Removes a document. -/
def remove (c : Catalog) (index id : String) : Except Failure Catalog :=
  let name := lowerCase index
  match c.document? name id with
  | none => .error (missing name id)
  | some _ => .ok (c.withDocuments name fun documents => Table.erase documents id)

def fetch (c : Catalog) (index id : String) : Except Failure Metadata :=
  let name := lowerCase index
  match c.document? name id with
  | none => .error (missing name id)
  | some document => .ok (Metadata.ofDocument name id document)

/-- Sets one field of a document. -/
def setField (c : Catalog) (index id key : String) (value : Json) : Except Failure Catalog :=
  let name := lowerCase index
  match c.document? name id with
  | none => .error (missing name id)
  | some document => .ok (c.store name id (Table.insert document key value))

/-!
# Searching
-/

/-- A document with the place where it is kept. -/
structure Entry where
  index : String
  id : String
  document : Fields

def Entry.metadata (e : Entry) : Metadata :=
  Metadata.ofDocument e.index e.id e.document

/-- The documents of an index, or of all of them, by index name and then by id. -/
def entries (c : Catalog) (index : Option String) : List Entry :=
  (c.shelves.filter fun s => index.all fun name => s.1 == name).flatMap fun s =>
    s.2.documents.map fun d => ⟨s.1, d.1, d.2⟩

/-- The order of two field values in a direction; incomparable values count as equal. -/
def valueOrder (direction : SortDirection) (a b : Json) : Ordering :=
  let o := (Json.order a b).getD .eq
  match direction with
  | .ascending => o
  | .descending => o.swap

/-- Does one document go before another?  Documents without the field come last in both directions. -/
def precedes (field : String) (direction : SortDirection) (a b : Entry) : Bool :=
  match Table.get? a.document field, Table.get? b.document field with
  | some x, some y => valueOrder direction x y == .lt
  | some _, none => true
  | none, _ => false

/-- Sorts as a request asks, if the values of the field let themselves be sorted. -/
def arrange (request : PageRequest) (hits : List Entry) : Option (List Entry) :=
  match request.sort with
  | none => some hits
  | some field => Sorting.sort (precedes field request.direction) hits

/-- The scope of a search: one index, unless the name stands for all. -/
def scope (index : Option String) : Option String :=
  (index.map lowerCase).filter fun name => name != allIndices

/-- A page of the documents in scope that satisfy a query. -/
def search (c : Catalog) (index : Option String) (query : Query) (request : PageRequest) :
    Except Failure (Page Metadata) :=
  let target := scope index
  match target.filter fun name => !Table.contains c.shelves name with
  | some unknown => .error (.noIndex unknown)
  | none =>
      match arrange request ((c.entries target).filter fun e => query.holds e.document) with
      | none => .error .breakdown
      | some hits =>
          let elements := ((hits.drop request.offset).take request.size).map Entry.metadata
          .ok (Page.ofTotal request elements hits.length)

end Catalog
end ContentGateway
