import ContentGateway.Api.Request
import ContentGateway.Api.Response
import ContentGateway.Environment
import ContentGateway.Page

/-!
# Parameters of requests

What the path and the query of a request say.
-/

namespace ContentGateway
namespace Api

/-- The meaning of a path segment. -/
def pathText (segment : String) : Except Refusal String :=
  match Utf8.toString? (Percent.decode segment.toList) with
  | some text => .ok text
  | none => .error (.plain 400 ("Invalid URL: " ++ withheld))

def unreadable : Refusal :=
  .plain 400 ("Failed to deserialize query string: " ++ withheld)

/-- The parameters of a query; those that have a meaning may stand there once. -/
def parameters (names : List String) (r : Request) : Except Refusal (List (String × String)) :=
  let pairs := Http.Form.pairs r.query
  if Http.Form.hasRepeated names pairs then .error unreadable else .ok pairs

/-- A number among the parameters. -/
def numberOf (pairs : List (String × String)) (name : String) : Except Refusal (Option Nat) :=
  match pairs.lookup name with
  | none => .ok none
  | some text =>
      match Decimal.natural? largestWord text with
      | some n => .ok (some n)
      | none => .error unreadable

/-- The index that the query names. -/
def indexParameter (r : Request) : Except Refusal (Option String) := do
  let pairs ← parameters ["index"] r
  pure (pairs.lookup "index")

/-- The index that the query has to name. -/
def requiredIndex (r : Request) : Except Refusal String := do
  match nonBlank (← indexParameter r) with
  | some index => pure index
  | none => throw (.error (.validation "query parameter 'index' is required"))

/-- Which page of which index a search asks for. -/
structure SearchParameters where
  index : Option String
  page : Option Nat
  size : Option Nat
  sort : Option String
  direction : Option String

namespace SearchParameters

def read (r : Request) : Except Refusal SearchParameters := do
  let pairs ← parameters ["index", "page", "size", "sort", "dir"] r
  let page ← numberOf pairs "page"
  let size ← numberOf pairs "size"
  pure ⟨pairs.lookup "index", page, size, pairs.lookup "sort", pairs.lookup "dir"⟩

/-- The page that is asked for; a direction counts only with a field to sort by. -/
def pageRequest (p : SearchParameters) : Except Failure PageRequest :=
  let page := p.page.getD 0
  let size := p.size.getD PageRequest.standard.size
  match p.sort.filter fun s => !s.isEmpty with
  | none => PageRequest.of page size
  | some sort => do
      let direction ← match p.direction with
        | some text => SortDirection.parse text
        | none => pure .ascending
      PageRequest.sorted page size sort direction

end SearchParameters
end Api
end ContentGateway
