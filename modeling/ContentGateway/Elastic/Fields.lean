import ContentGateway.Document

/-!
# Fields in the search engine

How the fields of a document are prepared for the search engine, and the mapping of
an index that is created without one.
-/

namespace ContentGateway
namespace Elastic

/-- The text that stands for a missing value. -/
def nullText : Json :=
  .string "null"

mutual

/-- Replaces null and the empty text, in an object member by member; arrays stay as they are. -/
def replaceNull : Json -> Json
  | .null => nullText
  | .string s => if s = "" then nullText else .string s
  | .object members => .object (replaceNulls members)
  | v => v

/-- Replaces null and the empty text among the values of fields. -/
def replaceNulls : List (String × Json) -> List (String × Json)
  | [] => []
  | (k, v) :: rest => (k, replaceNull v) :: replaceNulls rest

end

/-- The mapping of an index that is created without one. -/
def defaultMapping : Json :=
  let keyword : Json := .ofMembers [("type", .string "keyword")]
  let properties : Json := .ofMembers [(hashKey, keyword), (contentTypeKey, keyword)]
  .ofMembers [("mappings", .ofMembers [("properties", properties)])]

end Elastic
end ContentGateway
