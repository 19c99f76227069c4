import ContentGateway.Depot

/-!
# Reports on a depot

What a depot holds, for an operator: its indexes, its documents with the mark that
tells whether every replica has pinned their content, its content and its replicas.
-/

namespace ContentGateway
namespace Depot

/-- Whether a document is marked as pinned: yes, no, or neither. -/
def pinnedMark (document : Fields) : Json :=
  if (Query.empty.equals pinnedKey (.bool true)).holds document then .bool true
  else if (Query.empty.equals pinnedKey (.bool false)).holds document then .bool false
  else .null

def reportIndex (d : Depot) (index : String) : Json :=
  .ofMembers [("name", .string index), ("count", .nat (d.catalog.count index)),
    ("configuration", (d.catalog.configuration index).getD .null)]

def reportDocument (e : Catalog.Entry) : Json :=
  .ofMembers (e.metadata.members ++ [("pinned", pinnedMark e.document)])

def reportReplica (r : Replica) : Json :=
  .ofMembers [("name", .string r.name), ("tracked", Json.strings (Table.keys r.tracked))]

/-- Everything that a depot holds. -/
def report (d : Depot) : Json :=
  .ofMembers [
    ("indexes", .array ((Table.keys d.catalog.shelves).map d.reportIndex)),
    ("docs", .array ((d.catalog.entries none).map reportDocument)),
    ("blobs", .nat d.blobs.blobs.length),
    ("pinned", Json.strings d.blobs.listPinned),
    ("replicas", .array (d.replicas.map reportReplica))]

end Depot
end ContentGateway
