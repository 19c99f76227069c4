import ContentGateway.Text.Pieces
import ContentGateway.Url.Percent

/-!
# Parameters in queries

The query of an address as names with values.  A plus sign stands for a blank, a
percent sign with two digits for a byte.
-/

namespace ContentGateway
namespace Http
namespace Form

/-- A name or a value; bytes that form no character are replaced. -/
def decode (text : List Char) : String :=
  let blanks := text.map fun c => if c == '+' then ' ' else c
  String.ofList (Utf8.decodeLossy (Percent.decode blanks))

/-- A name without an equals sign has the empty value. -/
def pair (text : List Char) : String × String :=
  match splitFirst '=' text with
  | some (name, value) => (decode name, decode value)
  | none => (decode text, "")

/-- The names and values of a query in order. -/
def pairs (query : String) : List (String × String) :=
  ((splitBy (· == '&') query.toList).filter fun part => !part.isEmpty).map pair

/-- One of the names stands there more than once. -/
def hasRepeated (names : List String) (ps : List (String × String)) : Bool :=
  names.any fun name => (ps.filter fun p => p.1 == name).length > 1

end Form
end Http
end ContentGateway
