import ContentGateway.Content
import ContentGateway.Http.Header
import ContentGateway.Json.Basic
import ContentGateway.Url.Building

/-!
# HTTP messages

Requests that the gateway sends, what may come back, and how a call can break down
before a response has come back whole.
-/

namespace ContentGateway
namespace Http

/-- Why a call was not answered. -/
inductive Breakdown where
  /-- No connection was made. -/
  | connect
  /-- The time for the call was over. -/
  | timeout
  /-- The connection broke off. -/
  | broken
  /-- The address is not one of a web server. -/
  | unsendable
  deriving DecidableEq, Repr

/-- What a request carries. -/
inductive Body where
  | none
  | json (value : Json)
  /-- A form with one file. -/
  | file (content : Bytes)

structure Request where
  method : String
  url : Url
  headers : Headers
  body : Body

/-- No request reaches a host whose name holds one of these characters. -/
def isUnreachable (host : Host) : Bool :=
  host.display.toList.any fun c => "\"`\x7b\x7d".toList.contains c

/-- Only web servers can be asked. -/
def Request.isSendable (r : Request) : Bool :=
  (r.url.scheme == "http" || r.url.scheme == "https")
    && r.url.host?.any fun host => !isUnreachable host

structure Response where
  status : Nat
  body : Bytes

def Response.isSuccess (r : Response) : Bool :=
  200 ≤ r.status && r.status < 300

/-- The text of a response; bytes that form no character are replaced. -/
def Response.text (r : Response) : String :=
  String.ofList (Utf8.decodeLossy r.body)

end Http
end ContentGateway
