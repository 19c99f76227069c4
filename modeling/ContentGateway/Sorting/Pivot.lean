import ContentGateway.Sorting.Run

/-!
# Sorting by parts

A list is parted by one of its elements, the pivot, and both parts are sorted on their own.
The order of elements that may stand either way is kept.  After too many partings the rest is
sorted by runs.
-/

namespace ContentGateway
namespace Sorting

variable {α : Type} (less : α -> α -> Bool)

/-- The middle one of three elements. -/
def median (a b c : Nat × α) : Nat × α :=
  let x := less a.2 b.2
  if x == less a.2 c.2 then (if less b.2 c.2 != x then c else b) else a

/-- An element for `count` ones from a place on: the median of three for parts of them. -/
def sample (l : List α) (place count : Nat) : Option (Nat × α) :=
  if 8 ≤ count then do
    let a ← sample l place (count / 8)
    let b ← sample l (place + count / 8 * 4) (count / 8)
    let c ← sample l (place + count / 8 * 7) (count / 8)
    pure (median less a b c)
  else do
    let x ← l[place]?
    pure (place, x)
termination_by count

/-- Parts a list by a test; the pivot goes where it is sent. -/
def part (goes : α -> Bool) (l : List α) (place : Nat) (pivot : α) (pivotGoes : Bool) :
    List α × List α :=
  let before := l.take place
  let after := l.drop (place + 1)
  if pivotGoes then
    (before.filter goes ++ pivot :: after.filter goes,
      before.filter (fun x => !goes x) ++ after.filter fun x => !goes x)
  else
    (before.filter goes ++ after.filter goes,
      before.filter (fun x => !goes x) ++ pivot :: after.filter fun x => !goes x)

/--
Sorts by at most `limit` partings.  All elements are known not to be less than `bound`; a pivot
that is not above it is parted from what is above the pivot.
-/
def divide : Nat -> Option α -> List α -> Option (List α)
  | limit, bound, l =>
      if l.length ≤ blockSize then block less l
      else
        match limit with
        | 0 => drift less (fun l => some (insertion less l)) true l
        | limit + 1 => do
            let (place, pivot) ← sample less l 0 l.length
            let (low, high) := part (fun x => less x pivot) l place pivot false
            if low.isEmpty || bound.any fun b => !less b pivot then
              let (equal, above) := part (fun x => !less pivot x) l place pivot true
              let above ← divide limit none above
              pure (equal ++ above)
            else
              let high ← divide limit (some pivot) high
              let low ← divide limit bound low
              pure (low ++ high)

/-- Lists of this length and shorter ones are sorted by insertion. -/
def insertionSize : Nat := 20

/--
Sorts a list.  Of elements that may stand either way the order is kept.  If the comparison
contradicts itself the result is some order of the list, or none at all.
-/
def sort (l : List α) : Option (List α) :=
  if l.length ≤ insertionSize then some (insertion less l)
  else drift less (fun l => divide less (2 * l.length.log2) none l)
    (decide (l.length ≤ 2 * blockSize)) l

end Sorting
end ContentGateway
