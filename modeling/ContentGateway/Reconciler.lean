import ContentGateway.Backend

/-!
# The reconciler

Repairs replication.  A pass walks every index for documents whose flag says that
they are not pinned, pins their content on every replica and sets the flag where all
pins succeed.  What fails is left to the next pass.

A document that is pinned drops out of the result that is being walked, so a page on
which something was pinned is searched again at the same position, and only a page on
which all failed is stepped over.
-/

namespace ContentGateway
namespace Reconciler

variable {W : Type}

/-- The number of documents looked at in one go. -/
def standardPageSize : Nat := 50

/-- What a pass did. -/
structure Report where
  indices : Nat
  scanned : Nat
  pinned : Nat
  failed : Nat
  deriving DecidableEq, Repr

namespace Report

def zero : Report :=
  ⟨0, 0, 0, 0⟩

/-- Counts an attempt. -/
def record (r : Report) (succeeded : Bool) : Report :=
  if succeeded then { r with scanned := r.scanned + 1, pinned := r.pinned + 1 }
  else { r with scanned := r.scanned + 1, failed := r.failed + 1 }

def toJson (r : Report) : Json :=
  .ofMembers [("indices", .nat r.indices), ("scanned", .nat r.scanned),
    ("pinned", .nat r.pinned), ("failed", .nat r.failed)]

end Report

/-- Documents that are flagged as not pinned. -/
def unpinnedQuery : Query :=
  Query.empty.equals pinnedKey (.bool false)

/-- Pins one document's content everywhere and flags the document; a document without content fails. -/
def reconcile (b : Backends W) (m : Metadata) : StateM W Bool := do
  match m.contentId with
  | none => pure false
  | some contentId =>
      if ← pinEverywhere b.storage.replicas contentId then
        let flagged ← (b.indexer.setField m.index m.id pinnedKey (.bool true)).outcome
        pure flagged.isOk
      else pure false

/-- The state of a walk over one index. -/
structure Walk where
  /-- The ids of the documents attempted so far. -/
  attempted : List String
  report : Report

/-- What happened on one page. -/
structure Progress where
  fresh : Nat
  pinned : Nat

/-- Attempts the documents of a page that have not been attempted in this pass. -/
def reconcilePage (b : Backends W) : List Metadata -> Walk -> Progress -> StateM W (Walk × Progress)
  | [], walk, progress => pure (walk, progress)
  | m :: rest, walk, progress =>
      if walk.attempted.contains m.id then reconcilePage b rest walk progress
      else do
        let succeeded ← reconcile b m
        reconcilePage b rest ⟨m.id :: walk.attempted, walk.report.record succeeded⟩
          ⟨progress.fresh + 1, progress.pinned + if succeeded then 1 else 0⟩

/-- Where a walk stands after a search. -/
inductive Position where
  | ended (walk : Walk)
  /-- The next search, and how many documents the last one found in all. -/
  | before (request : PageRequest) (total : Nat) (walk : Walk)

/-- Searches once and attempts what was found.  A search that fails ends the walk. -/
def step (b : Backends W) (index : String) (request : PageRequest) (walk : Walk) :
    StateM W Position := do
  match ← (b.indexer.search (some index) unpinnedQuery request).outcome with
  | .error _ => pure (.ended walk)
  | .ok page =>
      if page.elements.isEmpty then pure (.ended walk)
      else
        let (walk, progress) ← reconcilePage b page.elements walk ⟨0, 0⟩
        if progress.fresh = 0 || progress.pinned = 0 then
          if page.isLast then pure (.ended walk)
          else pure (.before page.nextRequest page.totalElements walk)
        else pure (.before request page.totalElements walk)

/-- Goes on with a walk for at most `searches` searches. -/
def walkOn (b : Backends W) (index : String) : Nat -> Position -> StateM W Walk
  | _, .ended walk => pure walk
  | 0, .before _ _ walk => pure walk
  | searches + 1, .before request _ walk => do
      let position ← step b index request walk
      walkOn b index searches position

/--
The number of searches after which a walk has ended: each one but the last pins a
document or steps over a page.
-/
def searchBound : Position -> Nat
  | .ended _ => 0
  | .before _ total _ => 2 * total + 1

/-- Walks one index. -/
def reconcileIndex (b : Backends W) (pageSize : Nat) (index : String) (report : Report) :
    StateM W Report := do
  let first ← step b index ⟨0, max pageSize 1, none, .ascending⟩ ⟨[], report⟩
  let walk ← walkOn b index (searchBound first) first
  pure walk.report

def reconcileIndices (b : Backends W) (pageSize : Nat) : List String -> Report -> StateM W Report
  | [], report => pure report
  | index :: rest, report => do
      let report ← reconcileIndex b pageSize index { report with indices := report.indices + 1 }
      reconcileIndices b pageSize rest report

/-- One pass over every index. -/
def runOnce (b : Backends W) (pageSize : Nat) : StateM W Report := do
  match ← b.indexer.indexNames.outcome with
  | .error _ => pure .zero
  | .ok names => reconcileIndices b pageSize names .zero

end Reconciler
end ContentGateway
