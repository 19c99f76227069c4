import ContentGateway.Failure
import ContentGateway.Json.Record
import ContentGateway.Text.LowerCase

/-!
# Pages

A page request selects a slice of a result; a page carries the slice together with
the size of the whole result, so that a caller can walk on from page to page.
-/

namespace ContentGateway

/-!
# Directions
-/

inductive SortDirection where
  | ascending
  | descending
  deriving DecidableEq, Repr

namespace SortDirection

/-- The name of a direction in lower case. -/
def display : SortDirection -> String
  | .ascending => "asc"
  | .descending => "desc"

/-- The name of a direction on the wire. -/
def token : SortDirection -> String
  | .ascending => "ASC"
  | .descending => "DESC"

def readingOver (isEmpty : Tree -> Bool) : Reading SortDirection :=
  Reading.tag isEmpty [("ASC", .ascending), ("DESC", .descending)]

def reading : Reading SortDirection :=
  readingOver Reading.isNull

/-- A direction by its name in any ASCII case. -/
def parse (text : String) : Except Failure SortDirection :=
  let upper := asciiUpperCase text
  if upper = "ASC" then .ok .ascending
  else if upper = "DESC" then .ok .descending
  else .error (.validation ("invalid sort direction '" ++ upper ++ "', expected ASC or DESC"))

end SortDirection

/-!
# Requests
-/

/-- Page number `page`, counted from zero, of pages of `size` elements, sorted by a field if one is named. -/
structure PageRequest where
  page : Nat
  size : Nat
  sort : Option String
  direction : SortDirection
  deriving DecidableEq, Repr

namespace PageRequest

/-- The first twenty elements. -/
def standard : PageRequest :=
  ⟨0, 20, none, .ascending⟩

/-- The first element alone. -/
def single : PageRequest :=
  ⟨0, 1, none, .ascending⟩

instance : Inhabited PageRequest := ⟨standard⟩

/-- An unsorted page; pages hold at least one element. -/
def of (page size : Nat) : Except Failure PageRequest :=
  if size = 0 then .error (.validation "page size must be greater than zero")
  else .ok ⟨page, size, none, .ascending⟩

/-- A sorted page; a blank field name means that there is no sorting. -/
def sorted (page size : Nat) (sort : String) (direction : SortDirection) :
    Except Failure PageRequest :=
  (of page size).map fun r => { r with sort := nonBlank (some sort), direction := direction }

/-- The position of the first element of the page in the whole result. -/
def offset (r : PageRequest) : Nat :=
  min (r.page * r.size) largestWord

/-- The same page number with another size; zero counts as one. -/
def withSize (r : PageRequest) (size : Nat) : PageRequest :=
  { r with size := max size 1 }

/-- The page after this one. -/
def next (r : PageRequest) : PageRequest :=
  { r with page := r.page + 1 }

def members (r : PageRequest) : List (String × Json) :=
  [("page", .nat r.page), ("size", .nat r.size)] ++ Json.optional "sort" r.sort
    ++ [("direction", .string r.direction.token)]

def toJson (r : PageRequest) : Json :=
  .ofMembers r.members

/-- The slots of a request on the wire. -/
def slots (direction : Reading SortDirection) : List (Slot PageRequest) := [
  .required "page" Reading.word fun n r => { r with page := n },
  .required "size" Reading.word fun n r => { r with size := n },
  .defaulted "sort" (Reading.option Reading.string) fun s r => { r with sort := s },
  .defaulted "direction" direction fun d r => { r with direction := d }]

/-- The rules of a request that has been read: no empty pages and no blank sort field. -/
def checked (r : PageRequest) : Except String PageRequest :=
  let made : Except Failure PageRequest :=
    match r.sort with
    | some sort => sorted r.page r.size sort r.direction
    | none => (of r.page r.size).map fun made => { made with direction := r.direction }
  made.mapError Failure.display

def reading : Reading PageRequest :=
  (Reading.record (slots SortDirection.reading) standard).refine checked

/-- A request among the members of another object. -/
def readingWithin : Reading PageRequest :=
  (Reading.object (slots (SortDirection.readingOver Reading.isEmptyContent)) standard).refine checked

end PageRequest

/-!
# Pages of a result
-/

structure Page (α : Type u) where
  request : PageRequest
  elements : List α
  totalElements : Nat
  totalPages : Nat
  deriving DecidableEq, Repr

namespace Page

/-- The page of a result of `total` elements that answers a request. -/
def ofTotal (request : PageRequest) (elements : List α) (total : Nat) : Page α :=
  let size := max request.size 1
  ⟨request, elements, total, (total + size - 1) / size⟩

/-- The page of a result without elements. -/
def empty (request : PageRequest) : Page α :=
  ofTotal request [] 0

/-- The whole result is empty. -/
def isEmpty (p : Page α) : Bool :=
  p.totalElements == 0

/-- No page comes after this one. -/
def isLast (p : Page α) : Bool :=
  p.totalPages ≤ p.request.page + 1

def hasNext (p : Page α) : Bool :=
  !p.isLast

/-- The request for the page after this one. -/
def nextRequest (p : Page α) : PageRequest :=
  p.request.next

def map (f : α -> β) (p : Page α) : Page β :=
  { request := p.request, elements := p.elements.map f,
    totalElements := p.totalElements, totalPages := p.totalPages }

/-- The members of the request stand beside those of the page itself. -/
def members (element : α -> Json) (p : Page α) : List (String × Json) :=
  p.request.members ++ [
    ("elements", .array (p.elements.map element)),
    ("total_elements", .nat p.totalElements),
    ("total_pages", .nat p.totalPages)]

def toJson (element : α -> Json) (p : Page α) : Json :=
  .ofMembers (p.members element)

def slots (element : Reading α) : List (Slot (Page α)) := [
  .required "elements" (Reading.list element) fun es p => { p with elements := es },
  .required "total_elements" Reading.word fun n p => { p with totalElements := n },
  .required "total_pages" Reading.word fun n p => { p with totalPages := n }]

/-- A page is an object; the request is read from the same object after the page's own members. -/
def reading (element : Reading α) : Reading (Page α) :=
  fun t =>
    match Reading.object (slots element) ⟨.standard, [], 0, 0⟩ t with
    | .error e => .error e
    | .ok p =>
        match PageRequest.readingWithin t with
        | .error e => .error e
        | .ok r => .ok { p with request := r }

end Page
end ContentGateway
