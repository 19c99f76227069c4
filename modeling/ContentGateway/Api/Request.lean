import ContentGateway.Api.Body
import ContentGateway.Api.Target
import ContentGateway.Http.Form
import ContentGateway.Http.Multipart

/-!
# Requests to the gateway

A request as it comes in: a method, a target, headers and a body.  All stay as they are
written until someone asks for their meaning.
-/

namespace ContentGateway
namespace Api

structure Request where
  method : String
  path : String
  query : String
  headers : Http.Headers
  body : Bytes

namespace Request

/-- A request from its parts, if they are those of a request. -/
def ofParts? (method target : String) (headers : Http.Headers) (body : Bytes) : Option Request :=
  if !Http.isName method then none
  else if !headers.all fun h => Http.isName h.1 && Http.isHeaderText h.2 then none
  else (Target.parse? target).map fun t => ⟨method, t.path, t.query, headers, body⟩

/-!
# Meanings
-/

/-- The segments of the path as they are written. -/
def segments (r : Request) : List String :=
  (splitBy (· == '/') r.path.toList).map String.ofList

/-- What kind of content the body is. -/
def mediaType? (r : Request) : Option MediaType := do
  let text ← Http.Headers.get? r.headers "content-type"
  if text.toList.all fun c => c.toNat < 0x7F then MediaType.parse? text else none

/-- The boundary between the parts of the body. -/
def boundary? (r : Request) : Option String := do
  let m ← r.mediaType?
  if m.isForm then m.parameters.lookup "boundary" else none

end Request
end Api
end ContentGateway
