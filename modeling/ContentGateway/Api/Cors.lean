import ContentGateway.Api.Request
import ContentGateway.Api.Response

/-!
# Pages of other origins

Which pages may use the gateway.  Without a list all may; with one, those whose origin
is on it.  A request about what is permitted is answered without looking further.
-/

namespace ContentGateway
namespace Api
namespace Cors

/-- The header that permits a page to use the response. -/
def originHeaders (origins : List String) (r : Request) : Http.Headers :=
  let name := "access-control-allow-origin"
  if origins.isEmpty then [(name, "*")]
  else
    match Http.Headers.get? r.headers "origin" with
    | some origin =>
        if (origins.filter Http.isHeaderText).contains origin then [(name, origin)] else []
    | none => []

def isInquiry (r : Request) : Bool :=
  r.method == "OPTIONS"

/-- The answer to an inquiry: every method and every header is permitted. -/
def answer : Response :=
  ((Response.empty 200).withHeader "access-control-allow-methods" "*").withHeader
    "access-control-allow-headers" "*"

/-- The headers of the request with which a response may vary. -/
def varyHeader : String × String :=
  ("vary", "origin, access-control-request-method, access-control-request-headers")

def permit (origins : List String) (r : Request) (response : Response) : Response :=
  { response with
    headers :=
      if response.isNone then []
      else response.headers ++ varyHeader :: originHeaders origins r }

end Cors
end Api
end ContentGateway
