import ContentGateway.Api.Error
import ContentGateway.Content
import ContentGateway.Json.Record
import ContentGateway.Json.Text
import ContentGateway.Text.Blank

/-!
# Request bodies

Reading the body of a request as a value of a type.
-/

namespace ContentGateway
namespace Api

/-- The ASCII blanks, as bytes. -/
def isBlankByte (b : UInt8) : Bool :=
  isAsciiBlank (Char.ofNat b.toNat)

/-- A body that may be left out; one of ASCII blanks alone counts as left out. -/
def optionalBody (read : Reading α) (body : Bytes) : Except Error (Option α) :=
  if body.all isBlankByte then .ok none
  else
    match JsonText.readBytesAs read body with
    | .ok v => .ok (some v)
    | .error _ => .error (.badRequest ("invalid JSON body: " ++ withheld))

end Api
end ContentGateway
