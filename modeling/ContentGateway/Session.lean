import ContentGateway.Depot
import ContentGateway.Duration
import ContentGateway.Reconciler
import ContentGateway.Service

/-!
# Sessions

A depot in time.  Reads may take a while, and the reconciler may run a pass every
period.  Time is counted in milliseconds and passes in two ways: gradually while a
call waits, so that every pass runs when it is due; or in one jump, after which the
pass that is overdue runs once and the next one is a full period away.
-/

namespace ContentGateway

structure Session where
  depot : Depot
  now : Nat
  /-- How long a read takes. -/
  readDelay : Nat
  /-- The number of documents that the reconciler looks at in one go. -/
  pageSize : Nat
  /-- The time from one pass of the reconciler to the next. -/
  period : Nat
  /-- When the next pass is due, while the reconciler is running. -/
  due : Option Nat

namespace Session

def ofDepot (depot : Depot) : Session :=
  ⟨depot, 0, 0, Reconciler.standardPageSize, 1000, none⟩

/-- The names of the replicas in order. -/
def replicaNames (s : Session) : List String :=
  s.depot.replicas.map Replica.name

/-- Runs a call on the depot, which takes no time. -/
def onDepot (call : StateM Depot α) : StateM Session α :=
  fun s => let (answer, d) := call s.depot; (answer, { s with depot := d })

def act (call : Action Depot α) : Action Session α :=
  Action.lift onDepot call

/-!
# Passes of the reconciler
-/

/-- One pass. -/
def pass : StateM Session Reconciler.Report :=
  fun s =>
    onDepot (Reconciler.runOnce (Depot.backends s.replicaNames) s.pageSize) s

/-- A pass in this many milliseconds after the one before still counts as punctual. -/
def lateness : Nat := 5

/-- When the pass after one that was due at `due` and runs now is due. -/
def dueAfter (s : Session) (due : Nat) : Nat :=
  if s.now ≤ due + lateness then due + max s.period 1 else s.now + max s.period 1

/-- Runs the passes that are due by now, at most `passes` of them. -/
def catchUp : Nat -> StateM Session Unit
  | 0 => pure ()
  | passes + 1 => do
      let s ← get
      match s.due with
      | none => pure ()
      | some due =>
          if due ≤ s.now then
            let _ ← pass
            modify fun s => { s with due := some (s.dueAfter due) }
            catchUp passes

/--
Starts the reconciler, unless it is running or has no period; the first pass runs at
once.
-/
def start : StateM Session Unit := do
  let s ← get
  if s.due.isNone && s.period ≠ 0 then
    set { s with due := some s.now }
    catchUp 1

def stop : StateM Session Unit :=
  modify fun s => { s with due := none }

def isRunning (s : Session) : Bool :=
  s.due.isSome

/-!
# Time
-/

/-- Lets time jump. -/
def advance (milliseconds : Nat) : StateM Session Unit := do
  modify fun s => { s with now := s.now + milliseconds }
  catchUp (lateness + 1)

/-- Lets time pass up to a moment, in at most `steps` stretches between passes. -/
def passUntil (moment : Nat) : Nat -> StateM Session Unit
  | 0 => modify fun s => { s with now := max s.now moment }
  | steps + 1 => do
      match (← get).due with
      | none => modify fun s => { s with now := max s.now moment }
      | some due =>
          if due ≤ moment then
            modify fun s => { s with now := max s.now due }
            catchUp 1
            passUntil moment steps
          else modify fun s => { s with now := max s.now moment }

/-- Lets time pass while a call waits. -/
def wait (milliseconds : Nat) : StateM Session Unit := do
  let s ← get
  passUntil (s.now + milliseconds) (milliseconds / max s.period 1 + 2)

/-!
# The backends
-/

def read (id : String) : Action Session Bytes := do
  act (Depot.beginRead id)
  wait (← get).readDelay
  act (Depot.fetchBlob id)

/-- A read that is given up when it takes longer than `limit`. -/
def readWithin (limit : Nat) (id : String) : Action Session Bytes := do
  act (Depot.beginRead id)
  let delay := (← get).readDelay
  if delay > limit then
    wait limit
    throw (.timeout ("reading " ++ id ++ " from memory exceeded "
      ++ (Duration.ofMillis limit).display))
  else
    wait delay
    act (Depot.fetchBlob id)

def beginAll : List String -> StateM Session (List (String × Except Failure Unit))
  | [] => pure []
  | id :: rest => do
      let begun ← (act (Depot.beginRead id)).outcome
      let others ← beginAll rest
      pure ((id, begun) :: others)

def fetchAll : List (String × Except Failure Unit) -> StateM Session (List (Except Failure Bytes))
  | [] => pure []
  | (id, begun) :: rest => do
      let content ← match begun with
        | .ok _ => (act (Depot.fetchBlob id)).outcome
        | .error failure => pure (.error failure)
      let others ← fetchAll rest
      pure (content :: others)

/-- Reads that begin together wait together. -/
def readAll (ids : List String) : StateM Session (List (Except Failure Bytes)) := do
  let begun ← beginAll ids
  if begun.any fun b => b.2.isOk then
    wait (← get).readDelay
  fetchAll begun

def storage (replicas : List String) : Storage Session :=
  { Storage.lift onDepot (Depot.storage replicas) with
    read := read
    readAll := readAll }

def indexer : Indexer Session :=
  Indexer.lift onDepot Depot.indexer

/-- The backends of a session whose depot has replicas of the given names. -/
def backends (replicas : List String) : Backends Session :=
  ⟨storage replicas, indexer⟩

end Session
end ContentGateway
