import ContentGateway.Failure
import ContentGateway.Json.Basic

/-!
# Errors of the HTTP interface

The errors with which a request is answered: a status, a code for programs and a
message for people.  What went wrong inside is not told to the client.
-/

namespace ContentGateway
namespace Api

inductive Error where
  | notFound (message : String)
  | validation (message : String)
  | badRequest (message : String)
  | noIndex (message : String)
  | timeout (message : String)
  | internal (message : String)
  deriving DecidableEq, Repr

namespace Error

def status : Error -> Nat
  | .notFound _ => 404
  | .validation _ | .badRequest _ | .noIndex _ => 400
  | .timeout _ => 408
  | .internal _ => 500

def code : Error -> String
  | .notFound _ => "NOT_FOUND"
  | .validation _ => "VALIDATION_ERROR"
  | .badRequest _ => "BAD_REQUEST"
  | .noIndex _ => "NO_INDEX"
  | .timeout _ => "TIMEOUT"
  | .internal _ => "INTERNAL_ERROR"

/-- The whole text of an error, for the operator. -/
def display : Error -> String
  | .notFound m => "not found: " ++ m
  | .validation m => "validation error: " ++ m
  | .badRequest m => "bad request: " ++ m
  | .noIndex m => m
  | .timeout m => "timeout: " ++ m
  | .internal m => "internal error: " ++ m

/-- The text of an error that the client sees. -/
def publicMessage : Error -> String
  | .internal _ => "An internal error occurred"
  | e => e.display

def body (e : Error) : Json :=
  .ofMembers [("error",
    .ofMembers [("code", .string e.code), ("message", .string e.publicMessage)])]

/-- The error with which a failure of an operation is answered. -/
def ofFailure : Failure -> Error
  | .validation m => .validation m
  | .notFound m => .notFound m
  | .noIndex index => .noIndex (Failure.noIndex index).display
  | .timeout m => .timeout m
  | .technical m (some cause) => .internal (m ++ ": " ++ cause)
  | f => .internal f.display

end Error
end Api
end ContentGateway
