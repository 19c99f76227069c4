import ContentGateway.Text.LowerCase

/-!
# Headers

Named texts that accompany a message.  The case of the letters of a name does not
matter.
-/

namespace ContentGateway
namespace Http

abbrev Headers := List (String × String)

/-- The characters of names, among them those of methods and media types. -/
def isToken (c : Char) : Bool :=
  c.isAlphanum || "!#$%&'*+-.^_|~".toList.contains c || c == Char.ofNat 0x60

/-- The text of a name; it is not empty. -/
def isName (text : String) : Bool :=
  !text.isEmpty && text.toList.all isToken

/-- A text that a header may carry: without control characters other than tabs. -/
def isHeaderText (text : String) : Bool :=
  text.toList.all fun c => c == '\t' || (0x20 ≤ c.toNat && c.toNat ≠ 0x7F)

/-- The first header of a name, which is given in lower case. -/
def Headers.get? (headers : Headers) (name : String) : Option String :=
  (headers.find? fun h => asciiLowerCase h.1 == name).map fun h => h.2

end Http
end ContentGateway
