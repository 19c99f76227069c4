import ContentGateway.Duration
import ContentGateway.Failure

/-!
# Worker pools

A pool runs a limited number of tasks at a time; further tasks wait for a free
worker in the order in which they came.  A task takes a while and then succeeds,
fails or breaks off.  A caller may wait for a task up to a deadline; when that
passes, the task goes on without the caller.
-/

namespace ContentGateway

/-- How a task ends. -/
inductive Ending where
  | success
  | failure (why : Failure)
  /-- The task breaks off without a result. -/
  | breakdown
  deriving DecidableEq, Repr

structure Task where
  label : String
  milliseconds : Nat
  ending : Ending
  deriving DecidableEq, Repr

/-- A task that a worker has taken up. -/
structure Running where
  ticket : Nat
  task : Task
  endsAt : Nat

structure WorkerPool where
  name : String
  size : Nat
  now : Nat
  /-- The tasks under way, in the order in which they were taken up. -/
  running : List Running
  /-- The tasks without a worker, in the order in which they came. -/
  waiting : List (Nat × Task)
  /-- The tasks that have ended, the last one first. -/
  ended : List (Nat × Task)
  /-- The number of tasks submitted. -/
  tickets : Nat

namespace WorkerPool

/-- A pool with nothing to do; it has at least one worker. -/
def of (name : String) (size : Nat) : WorkerPool :=
  ⟨name, max size 1, 0, [], [], [], 0⟩

/-- The number of workers of a pool whose size is not given. -/
def standardSize : Nat := 10

def standard : WorkerPool :=
  of "mahuta" standardSize

/-- The labels of the tasks that have ended, in order. -/
def done (p : WorkerPool) : List String :=
  p.ended.reverse.map fun e => e.2.label

/-- The number of free workers. -/
def available (p : WorkerPool) : Nat :=
  p.size - p.running.length

/-- How a task has ended, if it has. -/
def ending? (p : WorkerPool) (ticket : Nat) : Option Ending :=
  (p.ended.find? fun e => e.1 == ticket).map fun e => e.2.ending

/-- Ends the tasks whose time is over, by the moments at which it is. -/
def finish (p : WorkerPool) : WorkerPool :=
  let due := (p.running.filter fun r => r.endsAt ≤ p.now).mergeSort fun a b => a.endsAt ≤ b.endsAt
  { p with
    running := p.running.filter fun r => !(r.endsAt ≤ p.now)
    ended := (due.map fun r => (r.ticket, r.task)).reverse ++ p.ended }

/-- Gives waiting tasks to free workers; a task that takes no time ends at once. -/
def takeUp (p : WorkerPool) : List (Nat × Task) -> WorkerPool
  | [] => { p with waiting := [] }
  | (ticket, task) :: rest =>
      if p.running.length < p.size then
        if task.milliseconds = 0 then takeUp { p with ended := (ticket, task) :: p.ended } rest
        else takeUp { p with running := p.running ++ [⟨ticket, task, p.now + task.milliseconds⟩] } rest
      else { p with waiting := (ticket, task) :: rest }

/-- Does all that can be done now. -/
def settle (p : WorkerPool) : WorkerPool :=
  let p := p.finish
  p.takeUp p.waiting

/-- Lets time jump. -/
def advance (p : WorkerPool) (milliseconds : Nat) : WorkerPool :=
  { p with now := p.now + milliseconds }.settle

/-- Hands a task in; nobody waits for it. -/
def submit (p : WorkerPool) (task : Task) : WorkerPool :=
  { p with waiting := p.waiting ++ [(p.tickets, task)], tickets := p.tickets + 1 }.settle

/-- The next moment at which a task ends. -/
def nextEnd? (p : WorkerPool) : Option Nat :=
  (p.running.map Running.endsAt).min?

/-- Lets time pass from one ending to the next until a task has ended or the deadline has come. -/
def await (ticket deadline : Nat) : Nat -> WorkerPool -> Option Ending × WorkerPool
  | 0, p => (none, p)
  | steps + 1, p =>
      match p.ending? ticket with
      | some ending => (some ending, p)
      | none =>
          match p.nextEnd? with
          | none => (none, { p with now := max p.now deadline }.settle)
          | some moment =>
              if moment < deadline then
                await ticket deadline steps { p with now := max p.now moment }.settle
              else (none, { p with now := max p.now deadline }.settle)

/--
Hands a task in and waits for it.  At its deadline the caller gives up, even if the
task ends at that very moment.
-/
def runWithin (p : WorkerPool) (deadline : Duration) (task : Task) :
    Except Failure Unit × WorkerPool :=
  let ticket := p.tickets
  let p := p.submit task
  let late : Failure := .timeout (task.label ++ " exceeded " ++ deadline.display)
  if deadline.nanoseconds = 0 then (.error late, p)
  else
    let steps := p.running.length + p.waiting.length + 1
    match await ticket (p.now + deadline.millisUp) steps p with
    | (some .success, p) => (.ok (), p)
    | (some (.failure why), p) => (.error why, p)
    | (some .breakdown, p) => (.error (.technical (task.label ++ " did not complete") (some withheld)), p)
    | (none, p) => (.error late, p)

end WorkerPool
end ContentGateway
