import ContentGateway.Backend
import ContentGateway.Ipfs.Caller
import ContentGateway.Text.Blank

/-!
# Nodes

A node stores content and pins it.  Its interface is one of procedures: every call is
a `POST` below one path.
-/

namespace ContentGateway
namespace Ipfs
namespace Node

variable {W : Type}

def procedure (name : String) : String :=
  "api/v0/" ++ name

def endpoint (name : String) : String :=
  "POST /" ++ procedure name

def call (c : Caller W) (name : String) (parameters : List (String × String)) :
    Call W Http.Response :=
  c.send "POST" (procedure name) parameters .none

/-!
# Answers
-/

/-- What a node says about itself. -/
structure Version where
  version : String
  commit : String

def Version.reading : Reading Version :=
  Reading.record [
    .required "Version" Reading.string fun s v => { v with version := s },
    .defaulted "Commit" Reading.string fun s v => { v with commit := s }] ⟨"", ""⟩

/-- Content that a node has added. -/
structure Added where
  name : String
  hash : String
  size : String

def Added.reading : Reading Added :=
  Reading.record [
    .defaulted "Name" Reading.string fun s a => { a with name := s },
    .required "Hash" Reading.string fun s a => { a with hash := s },
    .defaulted "Size" Reading.string fun s a => { a with size := s }] ⟨"", "", ""⟩

/-- The names under which pins are listed. -/
def pinsReading : Reading (List String) :=
  Reading.record [.defaulted "Keys" Reading.fields fun keys _ => Table.keys keys] []

/-- The lines of a text that are not blank, without their ends. -/
def filledLines (text : String) : List String :=
  let lines := (splitBy (· == '\n') text.toList).map fun line =>
    if line.getLast? == some '\r' then line.dropLast else line
  (lines.filter fun line => !line.all isBlank).map String.ofList

/-- The last line of an answer describes what was added. -/
def addedOf (body : String) : Except Error Added :=
  match (filledLines body).getLast? with
  | none => .error (.deserialization (endpoint "add") "empty add response")
  | some line =>
      (JsonText.readStringAs Added.reading line).mapError fun _ =>
        .deserialization (endpoint "add") withheld

/-!
# Calls
-/

def version (c : Caller W) : Call W Version := do
  let response ← call c "version" []
  Caller.decode (endpoint "version") Version.reading response

/-- Adds content and pins it if asked to. -/
def add (c : Caller W) (content : Bytes) (pin : Bool) : Call W Added := do
  let parameters := [("stream-channels", "true"), ("pin", if pin then "true" else "false")]
  let response ← c.send "POST" (procedure "add") parameters (.file content)
  MonadExcept.ofExcept (addedOf response.text)

def cat (c : Caller W) (id : String) : Call W Bytes := do
  let response ← call c "cat" [("arg", id)]
  pure response.body

def pin (c : Caller W) (id : String) : Call W Unit := do
  let _ ← call c "pin/add" [("arg", id)]

/-- Unpinning what is not pinned is a success. -/
def unpin (c : Caller W) (id : String) : Call W Unit := do
  try
    let _ ← call c "pin/rm" [("arg", id)]
  catch error =>
    if error.isNotPinned then pure () else throw error

def pins (c : Caller W) : Call W (List String) := do
  let response ← call c "pin/ls" [("type", "recursive")]
  Caller.decode (endpoint "pin/ls") pinsReading response

/-!
# Pin targets
-/

def name (c : Caller W) : String :=
  "ipfs node [" ++ c.address ++ "]"

def target (c : Caller W) : PinTarget W where
  name := name c
  pin id := (pin c id).action
  unpin id := (unpin c id).action
  tracked := (pins c).action

/-- The node as a pin target, if it is there. -/
def connect (c : Caller W) : Action W (PinTarget W) := do
  let _ ← (version c).connecting (name c)
  pure (target c)

end Node
end Ipfs
end ContentGateway
