import ContentGateway.Sorting.Block

/-!
# Runs

A long list is cut into runs: those that it has by itself, if they are long enough, and
others, which are sorted as blocks or left to be sorted together.  Neighbouring runs are
merged along a balanced tree.
-/

namespace ContentGateway
namespace Sorting

variable {α : Type}

structure Run (α : Type) where
  items : List α
  sorted : Bool

section Cutting

variable (less : α -> α -> Bool)

/-- How many elements follow one another from a first one on. -/
def chain (follows : α -> α -> Bool) : α -> List α -> Nat
  | _, [] => 0
  | x, y :: rest => if follows x y then chain follows y rest + 1 else 0

/-- The length of the run with which a list begins, and whether it falls. -/
def firstRun : List α -> Nat × Bool
  | x :: y :: rest =>
      if less y x then (chain (fun a b => less b a) y rest + 2, true)
      else (chain (fun a b => !less b a) y rest + 2, false)
  | l => (l.length, false)

/-- Cuts a run off a list.  One that the list has by itself counts from `least` elements on. -/
def nextRun (eager : Bool) (least : Nat) (l : List α) : Option (Run α × List α) :=
  let (size, falls) := firstRun less l
  if least ≤ size then
    let items := l.take size
    some (⟨if falls then items.reverse else items, true⟩, l.drop size)
  else if eager then do
    let items ← block less (l.take blockSize)
    pure (⟨items, true⟩, l.drop blockSize)
  else some (⟨l.take least, false⟩, l.drop least)

/-- Cuts a list into at most `count` runs. -/
def runs (eager : Bool) (least : Nat) : Nat -> List α -> Option (List (Run α))
  | count + 1, x :: l => do
      let (run, rest) ← nextRun less eager least (x :: l)
      let later ← runs eager least count rest
      pure (run :: later)
  | _, _ => some []

/-- The least length of a run that a list of a length should have by itself. -/
def leastRun (length : Nat) : Nat :=
  if length ≤ 64 * 64 then min (length - length / 2) 64
  else
    let shift := (1 + length.log2) / 2
    (Nat.pow 2 shift + length / Nat.pow 2 shift) / 2

end Cutting

/-!
# Merging runs
-/

section Merging

variable (less : α -> α -> Bool)

/-- Merges from the end where the shorter part is. -/
def merge (l r : List α) : List α :=
  if l.length ≤ r.length then l.merge r fun a b => !less b a
  else (r.reverse.merge l.reverse fun b a => !less b a).reverse

variable (settle : List α -> Option (List α))

def Run.settled (r : Run α) : Option (List α) :=
  if r.sorted then some r.items else settle r.items

/-- Joins two runs.  Unsorted ones stay so while there is room to sort them together. -/
def join (room : Nat) (l r : Run α) : Option (Run α) :=
  if l.items.length + r.items.length ≤ room ∧ l.sorted = false ∧ r.sorted = false then
    some ⟨l.items ++ r.items, false⟩
  else do
    let left ← l.settled settle
    let right ← r.settled settle
    pure ⟨merge less left right, true⟩

/--
How deep the boundary between two runs lies in the merge tree over a list: the number of leading
bits that the middles of the runs have in common, as fractions of the list in 64 bits.
-/
def boundaryDepth (length start middle stop : Nat) : Nat :=
  let scale := (Nat.pow 2 62 + length - 1) / length
  let apart := (scale * (start + middle)) ^^^ (scale * (middle + stop))
  if apart = 0 then 64 else 63 - apart.log2

/-- Joins a run with those before it whose boundaries lie as deep as `depth`. -/
def collapse (room depth : Nat) :
    List (Run α × Nat) -> Run α -> Option (List (Run α × Nat) × Run α)
  | [], run => some ([], run)
  | (left, d) :: earlier, run =>
      if depth ≤ d then do
        let joined ← join less settle room left run
        collapse room depth earlier joined
      else some ((left, d) :: earlier, run)

/-- Joins the last run with those before it and those that are to come. -/
def climb (room length : Nat) :
    List (Run α × Nat) -> Run α -> Nat -> List (Run α) -> Option (Run α)
  | earlier, run, _, [] => do
      let (_, run) ← collapse less settle room 0 earlier run
      pure run
  | earlier, run, scanned, next :: later => do
      let depth := boundaryDepth length (scanned - run.items.length) scanned
        (scanned + next.items.length)
      let (earlier, joined) ← collapse less settle room depth earlier run
      climb room length ((joined, depth) :: earlier) next (scanned + next.items.length) later

/-- Elements of three words fit into eight million bytes so many times. -/
def usualRoom : Nat := 333333

/-- Sorts by runs; `settle` sorts what is left unsorted. -/
def drift (eager : Bool) (l : List α) : Option (List α) := do
  match ← runs less eager (leastRun l.length) l.length l with
  | [] => pure l
  | first :: later =>
      let room := max (l.length - l.length / 2) (min l.length usualRoom)
      let last ← climb less settle room l.length [] first first.items.length later
      last.settled settle

end Merging

end Sorting
end ContentGateway
