import ContentGateway.Backend
import ContentGateway.Catalog

/-!
# The catalog as an indexer

The calls of an indexer on a catalog alone.  A call that fails leaves the catalog as
it was.
-/

namespace ContentGateway
namespace Catalog

/-- A call on a catalog that may fail without an effect. -/
def call (run : Catalog -> Except Failure (α × Catalog)) : Action Catalog α :=
  fun c =>
    match run c with
    | .error failure => (.error failure, c)
    | .ok (answer, changed) => (.ok answer, changed)

def indexer : Indexer Catalog where
  name := "memory"
  createIndex index configuration := call fun c => .ok ((), c.createIndex index configuration)
  indexNames := call fun c => .ok (c.indexNames, c)
  put index id contentId contentType fields := call fun c => c.put index id contentId contentType fields
  remove index id := call fun c => (c.remove index id).map fun c => ((), c)
  fetch index id := call fun c => (c.fetch index id).map fun m => (m, c)
  setField index id key value := call fun c => (c.setField index id key value).map fun c => ((), c)
  search index query request := call fun c => (c.search index query request).map fun p => (p, c)

end Catalog
end ContentGateway
