import ContentGateway.Api.Error
import ContentGateway.Content
import ContentGateway.Http.Header
import ContentGateway.Json.Printer

/-!
# Responses of the gateway

A response has a status, headers and a body.  A request that is refused is answered
with an error of the interface or, if it was not understood at all, with plain text.
-/

namespace ContentGateway
namespace Api

structure Response where
  status : Nat
  headers : Http.Headers
  body : Bytes
  deriving DecidableEq, Repr

namespace Response

/-- Stands where nothing is sent. -/
def none : Response :=
  ⟨0, [], []⟩

def isNone (r : Response) : Bool :=
  r.status == 0

/-- A response without content. -/
def empty (status : Nat) : Response :=
  ⟨status, [], []⟩

def ofContent (status : Nat) (contentType : String) (content : Bytes) : Response :=
  ⟨status, [("content-type", contentType)], content⟩

def ofText (status : Nat) (text : String) : Response :=
  ofContent status "text/plain; charset=utf-8" (Utf8.ofString text)

def ofJson (status : Nat) (value : Json) : Response :=
  ofContent status "application/json" (Utf8.ofString value.compact)

def withHeader (r : Response) (name value : String) : Response :=
  { r with headers := r.headers ++ [(name, value)] }

/-- The response to a request that asks for the headers alone. -/
def withoutBody (r : Response) : Response :=
  { r with body := [] }

end Response

/-- Why a request is not answered as asked. -/
inductive Refusal where
  | error (why : Error)
  | plain (status : Nat) (text : String)
  /-- The connection ends without a response. -/
  | breakdown
  deriving DecidableEq, Repr

namespace Refusal

def response : Refusal -> Response
  | .error why => .ofJson why.status why.body
  | .plain status text => .ofText status text
  | .breakdown => .none

def ofFailure : Failure -> Refusal
  | .breakdown => .breakdown
  | f => .error (.ofFailure f)

def badRequest (message : String) : Refusal :=
  .error (.badRequest message)

end Refusal
end Api
end ContentGateway
