import ContentGateway.Api.Request

/-!
# Routes

Which operation a path stands for.  Every path has one operation and so one method;
where that is `GET`, `HEAD` asks for the headers alone.
-/

namespace ContentGateway
namespace Api

inductive Method where
  | get
  | post
  | delete
  deriving DecidableEq, Repr

namespace Method

def name : Method -> String
  | .get => "GET"
  | .post => "POST"
  | .delete => "DELETE"

/-- The methods that a client may use, as they are listed. -/
def allowed : Method -> String
  | .get => "GET,HEAD"
  | m => m.name

/-- A method name asks for what this method does. -/
def admits (m : Method) (name : String) : Bool :=
  m.name == name || (m == .get && name == "HEAD")

end Method

/-- The operations; a path segment that is part of one is still as it is written. -/
inductive Route where
  | liveness
  | readiness
  | listIndexes
  | createIndex (index : String)
  | indexReference
  | indexFile
  | indexText
  | fetch (contentId : String)
  | search
  | deleteById (id : String)
  | deleteByContent (contentId : String)
  deriving DecidableEq, Repr

namespace Route

/-- A route whose last segment may not be empty. -/
def named (route : String -> Route) (segment : String) : Option Route :=
  if segment.isEmpty then none else some (route segment)

def ofSegments? : List String -> Option Route
  | ["", "health", "liveness"] => some .liveness
  | ["", "health", "readiness"] => some .readiness
  | ["", "config", "index"] => some .listIndexes
  | ["", "config", "index", index] => named .createIndex index
  | ["", "raw", "index"] => some .indexReference
  | ["", "json", "index"] => some .indexReference
  | ["", "raw", "store_index"] => some .indexFile
  | ["", "json", "store_index"] => some .indexText
  | ["", "query", "fetch", id] => named .fetch id
  | ["", "query", "search"] => some .search
  | ["", "delete", "id", id] => named .deleteById id
  | ["", "delete", "hash", id] => named .deleteByContent id
  | _ => none

def method : Route -> Method
  | .liveness | .readiness | .listIndexes | .fetch _ => .get
  | .deleteById _ | .deleteByContent _ => .delete
  | _ => .post

end Route
end Api
end ContentGateway
