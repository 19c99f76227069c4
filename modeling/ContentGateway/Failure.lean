import ContentGateway.Text.Blank

/-!
# Failures

The ways in which an operation of the gateway can fail.  Backends turn what goes
wrong with them into one of these, so that the operations never see the failures of
a particular backend.
-/

namespace ContentGateway

/-- Stands in messages where a lower layer would speak; its words are not part of an answer. -/
def withheld : String := "*"

inductive Failure where
  /-- A request is malformed or lacks a required field. -/
  | validation (message : String)
  /-- A document or content is unknown. -/
  | notFound (message : String)
  /-- The index was never created. -/
  | noIndex (index : String)
  /-- A backend did not answer before its deadline. -/
  | timeout (message : String)
  /-- A backend cannot be reached. -/
  | connection (backend reason : String)
  /-- Any other failure of a backend; the cause is for the operator. -/
  | technical (message : String) (cause : Option String)
  /-- A call breaks off.  Nobody is answered. -/
  | breakdown
  deriving DecidableEq, Repr

namespace Failure

/-- The text that describes a failure. -/
def display : Failure -> String
  | .validation m => "validation error: " ++ m
  | .notFound m => "not found: " ++ m
  | .noIndex i =>
      "Index " ++ i ++ " does not exist. Please create one using the operation 'create_index'"
  | .timeout m => "timeout: " ++ m
  | .connection b r => "unable to connect to " ++ b ++ ": " ++ r
  | .technical m _ => m
  | .breakdown => withheld

/-- What lies behind a failure. -/
def cause : Failure -> Option String
  | .technical _ c => c
  | .connection _ r => some r
  | _ => none

/-- Trying again may help. -/
def isTransient : Failure -> Bool
  | .timeout _ => true
  | _ => false

end Failure

/-- Required text has to be present and not blank. -/
def requireText (field : String) (value : Option String) : Except Failure Unit :=
  match nonBlank value with
  | some _ => .ok ()
  | none => .error (.validation (field ++ " shouldn't be empty"))

end ContentGateway
