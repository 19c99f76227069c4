import ContentGateway.Backend
import ContentGateway.WorkerPool

/-!
# Workers

What a world has to offer to those who hand work to others: a call is made by a
worker, and whoever wants its answer waits for it until a deadline.
-/

namespace ContentGateway

structure Workers (W : Type) where
  /-- Has a call of a name made and waits for its answer. -/
  run : {α : Type} -> String -> Duration -> Action W α -> Action W α

namespace Workers

variable {W : Type}

/-- How an answered call ends as a task. -/
def endingOf : Except Failure α -> Ending
  | .ok _ => .success
  | .error why => .failure why

/--
The workers of a pool that is part of a world and keeps its time.  A call is tried to
see what it answers and how long it takes; for so long it keeps a worker busy.
-/
def ofPool (pool : W -> WorkerPool) (set : W -> WorkerPool -> W) : Workers W where
  run label deadline call := fun w =>
    let (answer, after) := call.outcome w
    let elapsed := (pool after).now - (pool w).now
    let (outcome, left) := (pool w).runWithin deadline ⟨label, elapsed, endingOf answer⟩
    let w := set after left
    match outcome with
    | .ok _ => (answer, w)
    | .error why => (.error why, w)

end Workers
end ContentGateway
